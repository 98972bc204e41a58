import Gdbserver.Foundation.Numerals
import Gdbserver.Server.CurrentThread
import Gdbserver.Server.PickOne

/-!
# Reading and writing memory

What `M` accepts, what it then writes, and that `m` reads it back.
`DecodeByteArrayString` has no result for malformed text but no bytes at all.
-/

set_option autoImplicit false

namespace Gdbserver

open Logic Prog

/-- `SplitString` cuts at every separator and leaves the parts as they are. -/
def Ftl.Splits (ftl : Ftl) : Prop :=
  ∀ separator want string, ftl.splitString separator .keepWhitespace want string =
    Ftl.split separator .keepWhitespace want string

namespace Process

/-- `mx_process_write_memory` is called with a handle and succeeds. -/
def WriteGranted (env : Env) (server : Server) : Prop :=
  server.process.handle ≠ 0 ∧ (env.now .writeMemory server : Int) = 0

section Memory

variable {memory : UInt64 → UInt8} {address : UInt64} {data : Bytes}

theorem storeBytes_inside (small : data.length < 2 ^ 64) {index : Nat}
    (inside : index < data.length) :
    some (storeBytes memory address data (address + index.toUInt64)) = data[index]? := by
  have distance : (address + index.toUInt64 - address).toNat = index := by
    rw [UInt64.add_comm, UInt64.add_sub_cancel]
    exact UInt64.toNat_ofNat_of_lt' (Nat.lt_trans inside small)
  rw [storeBytes, distance, List.getElem?_eq_getElem inside, Option.getD_some]

theorem storeBytes_outside {location : UInt64}
    (outside : ∀ index < data.length, location ≠ address + index.toUInt64) :
    storeBytes memory address data location = memory location := by
  have far : data.length ≤ (location - address).toNat := by
    by_contra near
    apply outside (location - address).toNat (Nat.lt_of_not_le near)
    rw [Nat.toUInt64_eq, UInt64.ofNat_toNat, UInt64.add_comm, UInt64.sub_add_cancel]
  rw [storeBytes, List.getElem?_eq_none far, Option.getD_none]

end Memory

end Process

namespace CommandHandler

/-- The data of an `M` packet as it should be: two digits for each byte. -/
def Payload (data : Bytes) (length : UInt64) : Prop :=
  data.length = 2 * length.toNat ∧ ∀ char ∈ data, Util.IsHexDigit char

/-- The text between the letter of the packet and the data. -/
def location (first second : Bytes) : Bytes := first ++ chr ',' :: second

/-- The bytes are in memory, the client has its `OK`, and nothing else is different but the
number of calls. -/
structure Wrote (addr : UInt64) (bytes : Bytes) (before after : Server) : Prop where
  inside : ∀ index < bytes.length,
    some (after.kernel.memory (addr + index.toUInt64)) = bytes[index]?
  outside : ∀ place, (∀ index < bytes.length, place ≠ addr + index.toUInt64) →
    after.kernel.memory place = before.kernel.memory place
  rest : after = { before with
    kernel := { before.kernel with memory := after.kernel.memory }
    calls := after.calls
    posted := before.posted ++ [.write false (ascii "OK")] }

theorem payload_iff {data : Bytes} {length : UInt64} : Payload data length ↔
    Util.HexPairs data ∧ (Util.decodeByteArrayString data).length = length.toNat := by
  constructor
  · rintro ⟨count, digits⟩
    have pairs : Util.HexPairs data := ⟨by omega, digits⟩
    have decoded := Util.decodeByteArrayString_length pairs
    exact ⟨pairs, by omega⟩
  · rintro ⟨pairs, count⟩
    have decoded := Util.decodeByteArrayString_length pairs
    exact ⟨by omega, pairs.2⟩

theorem Payload.no_colon {data : Bytes} {length : UInt64} (payload : Payload data length) :
    chr ':' ∉ data := by
  intro member
  exact absurd (payload.2 _ member) (by decide)

/-- The number of bytes is right although the text is not theirs. -/
theorem decoded_of_not_payload {data : Bytes} {length : UInt64} (other : ¬ Payload data length) :
    (Util.decodeByteArrayString data).length = length.toNat ↔
      length = 0 ∧ ¬ Util.HexPairs data := by
  rw [payload_iff] at other
  constructor
  · intro count
    have malformed : ¬ Util.HexPairs data := fun pairs => other ⟨pairs, count⟩
    rw [Util.decodeByteArrayString_malformed malformed] at count
    exact ⟨UInt64.toNat_inj.mp count.symm, malformed⟩
  · rintro ⟨rfl, malformed⟩
    rw [Util.decodeByteArrayString_malformed malformed]
    rfl

section Packets

variable {env : Env} {server : Server}

/-- What `storeData` comes to. -/
theorem storeData_empty (addr : UInt64) :
    storeData env addr [] server = replyOK server := by
  rw [storeData, if_pos rfl]

theorem storeData_refused {addr : UInt64} {bytes : Bytes} (some : bytes ≠ [])
    (refused : ¬ Process.WriteGranted env server) :
    Answers (Util.buildErrorPacket env.ftl .perm) server (storeData env addr bytes server).2 ∧
      (storeData env addr bytes server).2.kernel.memory = server.kernel.memory := by
  have failed : ∃ reached, Process.writeMemory env addr bytes server = (Option.some false, reached) ∧
      reached.posted = server.posted ∧ reached.kernel = server.kernel := by
    rw [Process.writeMemory, read_bind]
    by_cases handle : server.process.handle = 0
    · rw [if_pos handle]
      exact ⟨server, rfl, rfl, rfl⟩
    · have status : (env.now .writeMemory server : Int) ≠ 0 := fun zero => refused ⟨handle, zero⟩
      rw [if_neg handle, if_neg some, ask_bind, if_pos status]
      exact ⟨_, rfl, rfl, rfl⟩
  obtain ⟨reached, ran, posted, kernel⟩ := failed
  rw [storeData, if_neg some, bind_of_some ran, if_not_false]
  constructor
  · rw [Answers, ← posted]
    rfl
  · rw [← kernel]
    rfl

theorem storeData_granted {addr : UInt64} {bytes : Bytes} (some : bytes ≠ [])
    (granted : Process.WriteGranted env server) :
    (storeData env addr bytes server).2 = { server.asked .writeMemory with
      kernel := { server.kernel with
        memory := Process.storeBytes server.kernel.memory addr bytes }
      posted := server.posted ++ [.write false (ascii "OK")] } := by
  obtain ⟨handle, status⟩ := granted
  have ran : Process.writeMemory env addr bytes server = (Option.some true,
      { server.asked .writeMemory with
        kernel := { server.kernel with
          memory := Process.storeBytes server.kernel.memory addr bytes } }) := by
    rw [Process.writeMemory, read_bind, if_neg handle, if_neg some, ask_bind,
      if_neg (not_not_intro status)]
    rfl
  rw [storeData, if_neg some, bind_of_some ran, if_not_true]
  rfl

/-- Accepted or not, the bytes are written whole or nothing is. -/
theorem storeData_ok_iff (addr : UInt64) (bytes : Bytes) :
    Answers (ascii "OK") server (storeData env addr bytes server).2 ↔
      bytes = [] ∨ Process.WriteGranted env server := by
  by_cases none : bytes = []
  · subst none
    rw [storeData_empty]
    exact iff_of_true rfl (Or.inl rfl)
  · by_cases granted : Process.WriteGranted env server
    · rw [storeData_granted none granted]
      exact iff_of_true rfl (Or.inr granted)
    · exact iff_of_false (storeData_refused none granted).1.not_ok (by simp [none, granted])

theorem storeData_wrote (addr : UInt64) {bytes : Bytes} (small : bytes.length < 2 ^ 64)
    (granted : bytes = [] ∨ Process.WriteGranted env server) :
    Wrote addr bytes server (storeData env addr bytes server).2 := by
  by_cases none : bytes = []
  · subst none
    rw [storeData_empty]
    exact ⟨by simp, fun _ _ => rfl, rfl⟩
  · rw [storeData_granted none (granted.resolve_left none)]
    exact ⟨fun index inside => Process.storeBytes_inside small inside,
      fun place outside => Process.storeBytes_outside outside, rfl⟩

variable {first second : Bytes} {addr length : UInt64}
  (splits : env.ftl.Splits) (reads : env.ftl.ReadsUnsigned)
  (address : Ftl.Digits first addr.toNat) (size : Ftl.Digits second length.toNat)
  (attached : hasInferior server = true)

section Parsing

include address size

theorem location_clear : chr ':' ∉ location first second := by
  simp only [location, List.mem_append, List.mem_cons, not_or]
  exact ⟨address.clear (by decide), by decide, size.clear (by decide)⟩

include splits

theorem splitParams_location :
    splitParams env ',' (location first second) = [first, second] := by
  have cut : Ftl.pieces (chr ',') (location first second) = [first, second] := by
    rw [location, Ftl.pieces_append (address.clear (by decide)),
      Ftl.pieces_of_clear (size.clear (by decide))]
  rw [splitParams, splits, Ftl.split]
  simp [cut, address.ne_nil, size.ne_nil]

theorem splitString_data (data : Bytes) :
    env.ftl.splitString (chr ':') .keepWhitespace .splitWantAll
        (location first second ++ chr ':' :: data) =
      location first second :: Ftl.pieces (chr ':') data := by
  have some : location first second ++ chr ':' :: data ≠ [] :=
    List.append_ne_nil_of_right_ne_nil _ (List.cons_ne_nil _ _)
  rw [splits, Ftl.split, if_neg some, Ftl.pieces_append (location_clear address size)]

end Parsing

include splits address size attached

theorem handle_M_colon {data : Bytes} (colon : chr ':' ∈ data) :
    handleCommand env (chr 'M' :: (location first second ++ chr ':' :: data)) server =
      replyWithError env .inval server := by
  change handle_M env _ server = _
  obtain ⟨before, after, rfl, clear⟩ := List.eq_append_cons_of_mem colon
  obtain ⟨piece, others, more⟩ := List.exists_cons_of_ne_nil (Ftl.pieces_ne_nil (chr ':') after)
  rw [handle_M, read_bind, attached, if_not_true, splitString_data splits address size,
    Ftl.pieces_append clear, more]

include reads

theorem handle_M_data {data : Bytes} (clear : chr ':' ∉ data) :
    handleCommand env (chr 'M' :: (location first second ++ chr ':' :: data)) server =
      (if (Util.decodeByteArrayString data).length ≠ length.toNat then replyWithError env .inval
        else storeData env addr (Util.decodeByteArrayString data)) server := by
  change handle_M env _ server = _
  rw [handle_M, read_bind, attached, if_not_true, splitString_data splits address size,
    Ftl.pieces_of_clear clear]
  dsimp only
  rw [splitParams_location splits address size]
  dsimp only
  rw [parsePair, (reads _ _).mpr address, (reads _ _).mpr size]

/-- A read the kernel grants. -/
theorem handle_m_granted (granted : (env.now .readMemory server : Int) = 0) :
    Answers (Util.encodeByteArrayString ((List.range length.toNat).map fun index : Nat =>
      server.kernel.memory (addr + index.toUInt64))) server
      (handleCommand env (chr 'm' :: location first second) server).2 := by
  have ran : Process.readMemory env addr length.toNat server =
      (some (some ((List.range length.toNat).map fun index : Nat =>
        server.kernel.memory (addr + index.toUInt64))), server.asked .readMemory) := by
    rw [Process.readMemory, ask_bind, if_neg (not_not_intro granted)]
    rfl
  change Answers _ server (handle_m env _ server).2
  rw [handle_m, read_bind, attached, if_not_true, splitParams_location splits address size]
  dsimp only
  rw [parsePair, (reads _ _).mpr address, (reads _ _).mpr size]
  dsimp only
  rw [bind_of_some ran]
  rfl

theorem handle_M_ok_iff (data : Bytes) :
    Answers (ascii "OK") server
        (handleCommand env (chr 'M' :: (location first second ++ chr ':' :: data)) server).2 ↔
      chr ':' ∉ data ∧ (Util.decodeByteArrayString data).length = length.toNat ∧
        (length = 0 ∨ Process.WriteGranted env server) := by
  by_cases colon : chr ':' ∈ data
  · rw [handle_M_colon splits address size attached colon]
    exact iff_of_false (replyWithError_not_ok env .inval rfl) (by simp [colon])
  · rw [handle_M_data splits reads address size attached colon]
    by_cases count : (Util.decodeByteArrayString data).length = length.toNat
    · have empty : Util.decodeByteArrayString data = [] ↔ length = 0 := by
        rw [← List.length_eq_zero_iff, count, ← UInt64.toNat_inj]
        rfl
      rw [if_neg (not_not_intro count), storeData_ok_iff, empty]
      simp [colon, count]
    · rw [if_pos count]
      exact iff_of_false (replyWithError_not_ok env .inval rfl) (by simp [count])

theorem handle_M_payload {data : Bytes} (payload : Payload data length) :
    handleCommand env (chr 'M' :: (location first second ++ chr ':' :: data)) server =
      storeData env addr (Util.decodeByteArrayString data) server := by
  have count := (payload_iff.mp payload).2
  rw [handle_M_data splits reads address size attached payload.no_colon,
    if_neg (not_not_intro count)]

/-- What a client writes it reads. -/
theorem handle_m_after_M {data : Bytes} (payload : Payload data length)
    (granted : length = 0 ∨ Process.WriteGranted env server) :
    let after :=
      (handleCommand env (chr 'M' :: (location first second ++ chr ':' :: data)) server).2
    Wrote addr (Util.decodeByteArrayString data) server after ∧
      ((env.now .readMemory after : Int) = 0 → Answers (Util.lowerCase data) after
        (handleCommand env (chr 'm' :: location first second) after).2) := by
  intro after
  obtain ⟨pairs, count⟩ := payload_iff.mp payload
  have small : (Util.decodeByteArrayString data).length < 2 ^ 64 := count ▸ length.toNat_lt
  have wrote : Wrote addr (Util.decodeByteArrayString data) server after := by
    have stored := handle_M_payload splits reads address size attached payload
    simp only [after, stored]
    apply storeData_wrote addr small
    apply granted.imp_left
    rintro rfl
    exact List.length_eq_zero_iff.mp count
  refine ⟨wrote, ?_⟩
  intro readable
  have still : hasInferior after = true := by
    rw [wrote.rest]
    exact attached
  have told := handle_m_granted splits reads address size still readable
  have same : (List.range length.toNat).map (fun index : Nat =>
      after.kernel.memory (addr + index.toUInt64)) = Util.decodeByteArrayString data := by
    apply List.ext_getElem?
    intro index
    by_cases inside : index < length.toNat
    · rw [List.getElem?_map, List.getElem?_range inside, Option.map_some,
        wrote.inside index (count ▸ inside)]
    · rw [List.getElem?_eq_none (by simpa using inside), List.getElem?_eq_none (by omega)]
  rw [same, Util.encode_decodeByteArrayString pairs] at told
  exact told

theorem handle_M_unwritten {data : Bytes}
    (other : ¬ (Payload data length ∧ (length = 0 ∨ Process.WriteGranted env server))) :
    (handleCommand env (chr 'M' :: (location first second ++ chr ':' :: data)) server
      ).2.kernel.memory = server.kernel.memory := by
  by_cases colon : chr ':' ∈ data
  · rw [handle_M_colon splits address size attached colon]
    rfl
  · rw [handle_M_data splits reads address size attached colon]
    by_cases count : (Util.decodeByteArrayString data).length = length.toNat
    · rw [if_neg (not_not_intro count)]
      by_cases none : Util.decodeByteArrayString data = []
      · rw [none, storeData_empty]
        rfl
      · have payload : Payload data length := by
          refine payload_iff.mpr ⟨?_, count⟩
          by_contra malformed
          exact none (Util.decodeByteArrayString_malformed malformed)
        have refused : ¬ Process.WriteGranted env server := by
          intro granted
          exact other ⟨payload, Or.inr granted⟩
        exact (storeData_refused none refused).2
    · rw [if_pos count]
      rfl

/-- `M` is answered with `OK` exactly for what it should be, but for text that is not
hexadecimal when the length is zero. -/
theorem handle_M_exact_iff (data : Bytes) :
    let after :=
      (handleCommand env (chr 'M' :: (location first second ++ chr ':' :: data)) server).2
    let proper := Payload data length ∧ (length = 0 ∨ Process.WriteGranted env server)
    ((Answers (ascii "OK") server after ↔ proper) ↔
        ¬ (length = 0 ∧ chr ':' ∉ data ∧ ¬ Util.HexPairs data)) ∧
      (proper → Wrote addr (Util.decodeByteArrayString data) server after ∧
        ((env.now .readMemory after : Int) = 0 → Answers (Util.lowerCase data) after
          (handleCommand env (chr 'm' :: location first second) after).2)) ∧
      (¬ proper → after.kernel.memory = server.kernel.memory) := by
  intro after proper
  refine ⟨?_, ?_, ?_⟩
  · have accepted := handle_M_ok_iff splits reads address size attached data
    by_cases payload : Payload data length
    · obtain ⟨pairs, count⟩ := payload_iff.mp payload
      have agree : Answers (ascii "OK") server after ↔ proper := by
        rw [accepted]
        simp [proper, payload, payload.no_colon, count]
      exact iff_of_true agree fun unnoticed => unnoticed.2.2 pairs
    · have never : ¬ proper := fun both => payload both.1
      rw [iff_false_intro never, iff_false, accepted, decoded_of_not_payload payload]
      tauto
  · rintro ⟨payload, granted⟩
    exact handle_m_after_M splits reads address size attached payload granted
  · intro other
    exact handle_M_unwritten splits reads address size attached other

end Packets

end CommandHandler

namespace Debugserver

open CommandHandler

/-- Two bytes in mixed case. -/
theorem two_bytes_written :
    let after := (handleCommand obliging (ascii "M1000,2:aBcD") firstThread).2
    Answers (ascii "OK") firstThread after ∧
      Wrote 0x1000 [0xab, 0xcd] firstThread after ∧
      Answers (ascii "abcd") after (handleCommand obliging (ascii "m1000,2") after).2 := by
  have splits : obliging.ftl.Splits := fun _ _ _ => rfl
  have address : Ftl.Digits (ascii "1000") (0x1000 : UInt64).toNat := ⟨by decide, by decide⟩
  have size : Ftl.Digits (ascii "2") (2 : UInt64).toNat := ⟨by decide, by decide⟩
  have attached : hasInferior firstThread = true := by decide +kernel
  have exactly :=
    handle_M_exact_iff splits Ftl.standard_readsUnsigned address size attached (ascii "aBcD")
  have pairs : Util.HexPairs (ascii "aBcD") := (Util.decodePairs_isSome_iff _).mp (by decide)
  have proper : Payload (ascii "aBcD") 2 ∧
      ((2 : UInt64) = 0 ∨ Process.WriteGranted obliging firstThread) :=
    ⟨⟨by decide, pairs.2⟩, Or.inr ⟨by decide +kernel, by decide +kernel⟩⟩
  obtain ⟨accepted, written, -⟩ := exactly
  obtain ⟨wrote, back⟩ := written proper
  exact ⟨(accepted.mpr fun unnoticed => absurd unnoticed.1 (by decide)).mpr proper, wrote,
    back (by decide +kernel)⟩

/-- Nothing is written, but the data is not what the length says. -/
theorem malformed_data_accepted :
    hasInferior firstThread = true ∧ ¬ Payload (ascii "zz") 0 ∧
      Answers (ascii "OK") firstThread
        (handleCommand obliging (ascii "M1000,0:zz") firstThread).2 := by
  refine ⟨by decide +kernel, ?_, (by decide +kernel : _ = _)⟩
  rintro ⟨count, -⟩
  exact absurd count (by decide)

end Debugserver

end Gdbserver
