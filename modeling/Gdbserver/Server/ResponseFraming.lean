import Gdbserver.Foundation.Buffer
import Gdbserver.Rsp.Framing
import Gdbserver.Server.CommandActions
import Gdbserver.Server.Notifications

/-!
# Responses on the wire

`PostWriteTask` puts a response between `$` and a checksum without escaping
anything, so a response has to be free of framing bytes by itself. All but one
of them are made of letters and digits; `qXfer` sends the bytes of addresses.
-/

set_option autoImplicit false

namespace Gdbserver

open Logic Prog Frame Util

namespace RspServer

/-- The closure of `PostWriteTask`: the output buffer it leaves, and `index`. The view is the
memory from the buffer on: a copy that is too long goes on behind the buffer. -/
def fillOutBuffer (outBuffer : Bytes) (notify : Bool) (data : Bytes) : Bytes × Nat :=
  let started := copyInto outBuffer 0 [if notify then chr '%' else chr '$']
  let filled := copyInto started 1 data
  let ended := copyInto filled (1 + data.length) [chr '#']
  let summed := copyInto ended (1 + data.length + 1) (encodeByteString (checksum data))
  (summed, 1 + data.length + 1 + 2)

/-- The bytes the closure hands to the I/O loop. -/
def builtFrame (outBuffer : Bytes) (notify : Bool) (data : Bytes) : Bytes :=
  (fillOutBuffer outBuffer notify data).1.take (fillOutBuffer outBuffer notify data).2

/-- What is copied in right behind the start of a buffer extends it. -/
theorem copyInto_behind (start rest bytes : Bytes) {index : Nat} (behind : index = start.length) :
    ∃ later, copyInto (start ++ rest) index bytes = start ++ bytes ++ later := by
  subst behind
  exact ⟨_, by rw [copyInto, List.take_left]⟩

theorem copies_append (outBuffer : Bytes) (start mark : UInt8) (data sum : Bytes) :
    ∃ rest, copyInto (copyInto (copyInto (copyInto outBuffer 0 [start]) 1 data)
      (1 + data.length) [mark]) (1 + data.length + 1) sum = start :: (data ++ mark :: sum) ++ rest := by
  have nothing : 0 = ([] : Bytes).length := rfl
  have one : 1 = [start].length := rfl
  obtain ⟨rest, first⟩ := copyInto_behind [] outBuffer [start] nothing
  obtain ⟨more, second⟩ := copyInto_behind [start] rest data one
  obtain ⟨later, third⟩ := copyInto_behind ([start] ++ data) more [mark]
    (Nat.add_comm 1 data.length)
  have end_eq : 1 + data.length + 1 = ([start] ++ data ++ [mark]).length := by
    simp only [List.length_append, List.length_singleton]
  obtain ⟨last, fourth⟩ := copyInto_behind ([start] ++ data ++ [mark]) later sum end_eq
  rw [List.nil_append, List.nil_append] at first
  refine ⟨last, ?_⟩
  rw [first, second, third, fourth]
  simp only [List.cons_append, List.nil_append, List.append_assoc]

theorem builtFrame_eq (outBuffer : Bytes) (notify : Bool) (data : Bytes) :
    builtFrame outBuffer notify data = frame notify data := by
  obtain ⟨rest, filled⟩ := copies_append outBuffer (if notify then chr '%' else chr '$') (chr '#')
    data (encodeByteString (checksum data))
  have length : 1 + data.length + 1 + 2 = (frame notify data).length := by
    simp only [frame, List.length_cons, List.length_append, encodeByteString_length]
    omega
  change (copyInto _ _ _).take (1 + data.length + 1 + 2) = _
  rw [filled, length]
  exact List.take_left

/-- The encoder and the verifier: which payloads come back from their frame,
whatever the output buffer held before, and that nothing else comes back. -/
theorem verifyPacket_builtFrame_iff (outBuffer data : Bytes) :
    ((verifyPacket (builtFrame outBuffer false data)).isSome ↔ Clear (chr '#') data) ∧
      ∀ payload, verifyPacket (builtFrame outBuffer false data) = some payload →
        payload = data := by
  rw [builtFrame_eq, verifyPacket_frame]
  by_cases clear : Clear (chr '#') data
  · rw [if_pos clear]
    exact ⟨⟨fun _ => clear, fun _ => rfl⟩, fun _ same => (Option.some.inj same).symm⟩
  · rw [if_neg clear]
    exact ⟨⟨fun accepted => absurd accepted Bool.false_ne_true, fun other => absurd other clear⟩,
      fun _ same => absurd same (Option.some_ne_none _).symm⟩

end RspServer

namespace CommandHandler

theorem ordinary_of_digit {digit : UInt8} (isDigit : (hexCharToByte digit).isSome) :
    digit ≠ kEscapeChar ∧ digit ≠ chr '#' := by
  constructor
  · rintro rfl
    exact absurd isDigit (by decide)
  · rintro rfl
    exact absurd isDigit (by decide)

theorem clear_of_digits {digits : Bytes} (each : ∀ digit ∈ digits, (hexCharToByte digit).isSome) :
    Clear (chr '#') digits :=
  clear_of_forall fun digit member => ordinary_of_digit (each digit member)

theorem encodeByteString_digits (byte : UInt8) :
    ∀ digit ∈ encodeByteString byte, (hexCharToByte digit).isSome := by
  have every : ∀ value : Fin 256, (encodeByteString (UInt8.ofFin value)).all
      (fun digit => (hexCharToByte digit).isSome) = true := by decide +kernel
  exact List.all_eq_true.mp (every byte.toFin)

theorem encodeByteArrayString_clear (bytes : Bytes) :
    Clear (chr '#') (encodeByteArrayString bytes) := by
  refine clear_of_digits fun digit member => ?_
  obtain ⟨byte, _, inside⟩ := List.mem_flatMap.mp member
  exact encodeByteString_digits byte digit inside

theorem joinStrings_clear {delimiter : UInt8} (ordinary : delimiter ≠ kEscapeChar)
    (inside : delimiter ≠ chr '#') {strings : List Bytes}
    (each : ∀ string ∈ strings, Clear (chr '#') string) :
    Clear (chr '#') (joinStrings delimiter strings) := by
  fun_induction joinStrings delimiter strings with
  | case1 => exact .nil
  | case2 last => exact each last List.mem_cons_self
  | case3 first rest _ ih =>
      obtain ⟨here, later⟩ := List.forall_mem_cons.mp each
      exact here.append (.plain ordinary inside (ih later))

/-- Letters and digits only. -/
theorem Plain.clear {env : Env} (prints : env.ftl.PrintsDigits) {response : Bytes}
    (plain : Plain env response) : Clear (chr '#') response := by
  cases plain with
  | fixed known =>
      have each : ∀ text ∈ [ascii "OK", ascii "0", ascii "l", kSupportedFeatures],
          Clear (chr '#') text := by decide +kernel
      exact each response known
  | error code =>
      have digits := clear_of_digits (prints.decimal code.value)
      unfold buildErrorPacket
      dsimp only
      split
      · exact .plain (by decide) (by decide) (.plain (by decide) (by decide) digits)
      · exact .plain (by decide) (by decide) digits
  | hex bytes => exact encodeByteArrayString_clear bytes
  | zeros count =>
      refine clear_of_forall fun byte member => ?_
      rw [List.eq_of_mem_replicate member]
      decide
  | threadId tid =>
      have letters : Clear (chr '#') (ascii "QC") := by decide
      exact letters.append (clear_of_digits (prints.hex tid))
  | threadInfo ids =>
      refine .plain (by decide) (by decide) (joinStrings_clear (by decide) (by decide) ?_)
      intro string member
      obtain ⟨tid, _, rfl⟩ := List.mem_map.mp member
      exact clear_of_digits (prints.hex tid)

/-- The data a transfer sends; `none` when it is refused or not understood. -/
def transferReply (env : Env) (params : Bytes) (server : Server) : Option Bytes :=
  if !startsWith params (ascii "auxv:read::") then none
  else
    match splitParams env ',' (params.drop (ascii "auxv:read::").length) with
    | [first, second] =>
        match parsePair env first second with
        | none => none
        | some (offset, length) =>
            if !server.hasProcess then none
            else if offset > auxvSize then none
            else some (auxvResponse server.process (env.now .uninitialized server) offset length)
    | _ => none

def PlainPost (env : Env) : Post → Prop
  | .write isNotification response => isNotification = false ∧ Plain env response
  | .quit => True
  | .ack _ => False

theorem plainPost_allows (env : Env) : Allows env (.command (PlainPost env)) :=
  ⟨fun _ plain => ⟨rfl, plain⟩, trivial, fun _ => trivial⟩

/-- A transfer sends its data, or a plain response if it has none to send. -/
theorem handleQueryXfer_reply (env : Env) (params : Bytes) (server : Server) :
    (transferReply env params server = none ∧
        (acting env (.command (PlainPost env))).rel server (handleQueryXfer env params server).2) ∨
      ∃ data, transferReply env params server = some data ∧
        (handleQueryXfer env params server).2.posted = server.posted ++ [.write false data] := by
  have error (code : ErrorCode) := replyWithError_acts (plainPost_allows env) code server
  rw [transferReply, handleQueryXfer]
  cases startsWith params (ascii "auxv:read::") with
  | false => exact Or.inl ⟨rfl, .refl⟩
  | true =>
      rw [if_not_true, if_not_true]
      generalize splitParams env ',' (params.drop (ascii "auxv:read::").length) = window
      rcases window with _ | ⟨first, _ | ⟨second, _ | ⟨third, rest⟩⟩⟩
      · exact Or.inl ⟨rfl, error .inval⟩
      · exact Or.inl ⟨rfl, error .inval⟩
      · dsimp only
        generalize parsePair env first second = pair
        rcases pair with _ | ⟨offset, length⟩
        · exact Or.inl ⟨rfl, error .inval⟩
        · dsimp only
          rw [read_bind]
          cases server.hasProcess with
          | false => exact Or.inl ⟨rfl, error .perm⟩
          | true =>
              rw [if_not_true, if_not_true]
              by_cases outside : offset > auxvSize
              · rw [if_pos outside, if_pos outside]
                exact Or.inl ⟨rfl, error .inval⟩
              · rw [if_neg outside, if_neg outside]
                exact Or.inr ⟨_, rfl, rfl⟩
      · exact Or.inl ⟨rfl, error .inval⟩

/-- The data of the auxiliary vector that this packet asks for and gets. -/
def auxvReply (env : Env) (packet : Bytes) (server : Server) : Option Bytes :=
  match packet with
  | [] => none
  | command :: arguments =>
      if command = chr 'q' ∧ (extractParameters arguments).1 = ascii "Xfer" then
        transferReply env (extractParameters arguments).2 server
      else none

theorem acting_posting {env : Env} {allowed : Permits} {before after : Server}
    (acted : (acting env allowed).rel before after) : (posting allowed.posts).rel before after := by
  refine steps_within (fun act => ?_) acted
  cases act with
  | aside kept => exact posting_of_posted allowed.posts kept.posted
  | posted post may => exact ⟨[post], rfl, by simpa using may⟩
  | touched touch => cases touch <;> exact posting_of_posted allowed.posts rfl

theorem handleCommand_xfer (env : Env) {arguments : Bytes}
    (name : (extractParameters arguments).1 = ascii "Xfer") :
    handleCommand env (chr 'q' :: arguments) =
      handleQueryXfer env (extractParameters arguments).2 := by
  have query : handleCommand env (chr 'q' :: arguments) = handleQuery env true arguments := by
    unfold handleCommand
    dsimp only
    repeat rw [if_neg (by decide)]
    rw [if_pos rfl]
  have nonempty : arguments ≠ [] := by
    rintro rfl
    exact absurd name (by decide)
  have checked : dcheck .extractParametersNonempty (arguments ≠ []) = pure () := by
    rw [dcheck, if_pos (decide_eq_true nonempty)]
  rw [query, handleQuery, checked]
  funext server
  dsimp only
  rw [pure_bind_apply, if_pos rfl, name, handle_q]
  repeat rw [if_neg (by decide)]
  rw [if_pos rfl]

/-- Every command posts plain responses, or it is a transfer and posts its data. -/
theorem handleCommand_reply (env : Env) (packet : Bytes) (server : Server) :
    (auxvReply env packet server = none ∧
        (posting (PlainPost env)).rel server (handleCommand env packet server).2) ∨
      ∃ data, auxvReply env packet server = some data ∧
        (handleCommand env packet server).2.posted = server.posted ++ [.write false data] := by
  have other (distinct : ∀ arguments, packet = chr 'q' :: arguments →
      (extractParameters arguments).1 ≠ ascii "Xfer") :
      (posting (PlainPost env)).rel server (handleCommand env packet server).2 :=
    acting_posting (handleCommand_acts (plainPost_allows env) packet
      (fun arguments same xfer => absurd xfer (distinct arguments same)) server)
  cases packet with
  | nil => exact Or.inl ⟨rfl, other fun _ => nofun⟩
  | cons command arguments =>
      by_cases transfer : command = chr 'q' ∧ (extractParameters arguments).1 = ascii "Xfer"
      · have handled : handleCommand env (command :: arguments) server =
            handleQueryXfer env (extractParameters arguments).2 server := by
          obtain ⟨rfl, name⟩ := transfer
          exact congrFun (handleCommand_xfer env name) server
        rw [auxvReply, if_pos transfer, handled]
        rcases handleQueryXfer_reply env (extractParameters arguments).2 server with
          ⟨none, acted⟩ | data
        · exact Or.inl ⟨none, acting_posting acted⟩
        · exact Or.inr data
      · refine Or.inl ⟨by rw [auxvReply, if_neg transfer], other ?_⟩
        intro others same xfer
        cases same
        exact transfer ⟨rfl, xfer⟩

/-- Wrapped as `PostWriteTask` wraps it, the response is what the verifier gets. -/
def Survives (response : Bytes) : Prop :=
  ∀ outBuffer, verifyPacket (RspServer.builtFrame outBuffer false response) = some response

theorem survives_iff_clear (response : Bytes) : Survives response ↔ Clear (chr '#') response := by
  simp only [Survives, RspServer.builtFrame_eq, verifyPacket_frame]
  by_cases clear : Clear (chr '#') response
  · simp [clear]
  · simp [clear]

/-- The responses that handling a packet has posted. -/
def responses (env : Env) (packet : Bytes) (server : Server) : List Bytes :=
  ((handleCommand env packet server).2.posted.drop server.posted.length).filterMap fun
    | .write false response => some response
    | _ => none

/-- In every state, the responses to a packet survive the framing, except for
the data of the auxiliary vector, which does if it happens to be escaped. -/
theorem responses_survive_iff (env : Env) (prints : env.ftl.PrintsDigits) (packet : Bytes)
    (server : Server) :
    (∀ response ∈ responses env packet server, Fits response → Survives response) ↔
      ∀ data, auxvReply env packet server = some data → Fits data → Clear (chr '#') data := by
  simp only [survives_iff_clear]
  rcases handleCommand_reply env packet server with ⟨none, posts, posted, plain⟩ | ⟨data, sent, posted⟩
  · have clear : ∀ response ∈ responses env packet server, Clear (chr '#') response := by
      intro response member
      rw [responses, posted, List.drop_left] at member
      obtain ⟨post, inside, same⟩ := List.mem_filterMap.mp member
      cases post with
      | write isNotification data =>
          cases isNotification with
          | true => exact absurd (plain _ inside).1.symm Bool.false_ne_true
          | false =>
              cases same
              exact (plain _ inside).2.clear prints
      | ack verified => cases same
      | quit => cases same
    rw [none]
    exact ⟨fun _ data sent => absurd sent (Option.some_ne_none data).symm,
      fun _ response member _ => clear response member⟩
  · have only : responses env packet server = [data] := by
      rw [responses, posted, List.drop_left]
      rfl
    rw [only, sent]
    simp

end CommandHandler

namespace Debugserver

open CommandHandler

/-- The program is loaded at this address. -/
def loadedAt (base : UInt64) : Env :=
  { obliging with
    answer := fun call => match call with
      | .launchpadGetBaseAddress => fun _ => (0, base)
      | other => obligingAnswer other }

/-- The server once a program loaded there has been run to its first thread. -/
def runAt (base : UInt64) : Server :=
  (run (RspServer.handle (loadedAt base)) untilFirstThread (started (loadedAt base) program)).2.core

def auxvQuery : Bytes := ascii "qXfer:auxv:read::0,20"

theorem low_base_survives :
    (loadedAt 4096).ftl.PrintsDigits ∧
      ∀ response ∈ responses (loadedAt 4096) auxvQuery (runAt 4096), Fits response → Survives response := by
  have clear : ∀ data ∈ auxvReply (loadedAt 4096) auxvQuery (runAt 4096), Clear (chr '#') data := by
    decide +kernel
  exact ⟨Ftl.standard_printsDigits,
    (responses_survive_iff _ Ftl.standard_printsDigits _ _).mpr fun data sent _ => clear data sent⟩

/-- The third byte of this base address is a `#`. -/
theorem unlucky_base_lost :
    ∃ response ∈ responses (loadedAt 0x230000) auxvQuery (runAt 0x230000),
      Fits response ∧ ¬ Survives response := by
  simp only [survives_iff_clear]
  decide +kernel

end Debugserver

end Gdbserver
