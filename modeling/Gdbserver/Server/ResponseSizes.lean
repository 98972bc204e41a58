import Gdbserver.Server.Replies

/-!
# Responses and the output buffer

Only three commands can build a response that does not fit: `m` with the length
the client asks for, `qfThreadInfo` with one entry for each thread, and
`qXfer:auxv:read` with an offset behind the vector. For each of them the length
of the response is decided by the command and the state it finds.
-/

set_option autoImplicit false

namespace Gdbserver

open Logic Prog Frame Contract

/-- The command is answered by a response that fits exactly when `fits` says so. -/
def Sized (fits : Bool) (before : Server) (handled : Bool) (after : Server) : Prop :=
  Served (fun response => Fits response ↔ fits = true) before handled after ∧
    (handled = false → fits = true)

theorem Sized.of_fits {fits : Bool} {before after : Server} {handled : Bool} (always : fits = true)
    (served : Served Fits before handled after) : Sized fits before handled after :=
  ⟨served.mono fun _ short => iff_of_true short always, fun _ => always⟩

theorem Sized.of_reply {fits : Bool} {before after : Server} {response : Bytes}
    (length : Fits response ↔ fits = true) (kept : Still (before.post [.write false response]) after) :
    Sized fits before true after :=
  ⟨⟨[.write false response], ⟨response, [], rfl, Or.inl rfl, length⟩, kept⟩, nofun⟩

theorem sized_of_serves {program : Prog Server Bool} (meets : (serves Fits).Meets program)
    (server : Server) :
    ∃ handled after, program server = (some handled, after) ∧ Sized true server handled after := by
  obtain ⟨handled, after, ran, served⟩ := meets server
  exact ⟨handled, after, ran, Sized.of_fits rfl served⟩

namespace CommandHandler

variable (env : Env)

/-- `m` reads no more than the buffer holds in hexadecimal, or nothing. -/
def memoryFits (packet : Bytes) (server : Server) : Bool :=
  match splitParams env ',' packet with
  | [first, second] =>
      match parsePair env first second with
      | some (_, length) =>
          !hasInferior server || decide ((env.now .readMemory server : Int) ≠ 0) ||
            decide (2 * length.toNat + 4 < RspServer.kMaxBufferSize)
      | none => true
  | _ => true

theorem readMemory_length (addr : UInt64) (length : Nat) (server : Server) :
    ∃ buffer after, Process.readMemory env addr length server = (some buffer, after) ∧
      Quiet server after ∧
      if (env.now .readMemory server : Int) ≠ 0 then buffer = none
      else ∃ bytes, buffer = some bytes ∧ bytes.length = length := by
  have asked : Quiet server (server.asked .readMemory) := ⟨rfl, rfl, rfl, rfl, rfl⟩
  rw [Process.readMemory, ask_bind]
  split
  · exact ⟨none, _, rfl, asked, rfl⟩
  · exact ⟨_, _, rfl, asked, _, rfl, by rw [List.length_map, List.length_range]⟩

theorem readMemory_sized (addr : UInt64) (length : Nat) (server : Server) :
    ∃ handled after, (do
        match ← Process.readMemory env addr length with
        | none => replyWithError env .perm
        | some buffer => reply (Util.encodeByteArrayString buffer) : Prog Server Bool) server =
          (some handled, after) ∧
      Sized (decide ((env.now .readMemory server : Int) ≠ 0) ||
        decide (2 * length + 4 < RspServer.kMaxBufferSize)) server handled after := by
  obtain ⟨buffer, middle, ran, same, result⟩ := readMemory_length env addr length server
  rw [bind_of_some ran]
  by_cases refused : (env.now .readMemory server : Int) ≠ 0
  · rw [if_pos refused] at result
    rw [result, decide_eq_true refused]
    obtain ⟨handled, after, ranReply, served⟩ := replyWithError_serves env .perm middle
    exact ⟨handled, after, ranReply, Sized.of_fits rfl ((serves Fits).prepend same.still served)⟩
  · rw [if_neg refused] at result
    obtain ⟨bytes, rfl, exact'⟩ := result
    rw [decide_eq_false refused, Bool.false_or]
    refine ⟨true, middle.post [.write false (Util.encodeByteArrayString bytes)], rfl,
      Sized.of_reply ?_ (same.still.post _)⟩
    rw [decide_eq_true_iff, Fits, Util.encodeByteArrayString_length, exact']

theorem handle_m_sized (packet : Bytes) (server : Server) :
    ∃ handled after, handle_m env packet server = (some handled, after) ∧
      Sized (memoryFits env packet server) server handled after := by
  have error (code : Util.ErrorCode) := sized_of_serves (replyWithError_serves env code) server
  rw [handle_m, read_bind, memoryFits]
  cases hasInferior server with
  | false =>
      simp only [Bool.not_false, Bool.true_or, if_true]
      split
      · split <;> exact error .noent
      · exact error .noent
  | true =>
      simp only [Bool.not_true, Bool.false_or, Bool.false_eq_true, if_false]
      generalize splitParams env ',' packet = params
      rcases params with _ | ⟨first, _ | ⟨second, _ | ⟨third, rest⟩⟩⟩
      · exact error .inval
      · exact error .inval
      · dsimp only
        cases parsePair env first second with
        | none => exact error .noent
        | some pair => exact readMemory_sized env pair.1 pair.2.toNat server
      · exact error .inval

/-- The thread list is built in the state the refreshed map gives. -/
def threadInfoIds (server : Server) : List Koid :=
  liveThreadIds (inspectLiveThreads env id
    (Process.ensureThreadMapFresh env server).2).2

/-- `qfThreadInfo`: the hexadecimal ids, each with its comma or the letter `m`. -/
def threadInfoFits (server : Server) : Bool :=
  !server.hasProcess || server.inThreadInfoSequence ||
    decide (((threadInfoIds env server).map fun tid => (env.ftl.uint64ToHex tid).length + 1).sum + 4
      < RspServer.kMaxBufferSize)

theorem threadInfo_fits {ids : List Koid} (some : ids ≠ []) :
    Fits (threadInfo env ids) ↔
      (ids.map fun tid => (env.ftl.uint64ToHex tid).length + 1).sum + 4 <
        RspServer.kMaxBufferSize := by
  have joined := Util.joinStrings_length (chr ',') (ids.map env.ftl.uint64ToHex)
    (mt List.map_eq_nil_iff.mp some)
  rw [List.map_map] at joined
  rw [Fits, threadInfo, List.length_cons, joined]
  rfl

theorem replyThreadInfo_sized (server : Server) :
    ∃ handled after, replyThreadInfo env server = (some handled, after) ∧
      Sized (decide (((threadInfoIds env server).map fun tid =>
        (env.ftl.uint64ToHex tid).length + 1).sum + 4 < RspServer.kMaxBufferSize))
        server handled after := by
  obtain ⟨_, fresh, refreshed, same⟩ := Process.ensureThreadMapFresh_quiet env server
  obtain ⟨_, last, inspected, unchanged⟩ := Process.ensureThreadMapFresh_quiet env fresh
  have kept : Quiet server last := quiet.trans same unchanged
  have ids : threadInfoIds env server = liveThreadIds last := by
    rw [threadInfoIds, refreshed, inspectLiveThreads, bind_of_some inspected]
    rfl
  have reduced : replyThreadInfo env server = (if liveThreadIds last = [] then reply (ascii "l")
      else do
        setThreadInfoSequence true
        reply (threadInfo env (liveThreadIds last)) : Prog Server Bool) last := by
    have looked : inspectLiveThreads env liveThreadIds fresh = (some (liveThreadIds last), last) :=
      bind_of_some inspected
    rw [replyThreadInfo, bind_of_some refreshed, bind_of_some looked]
  rw [reduced, ids]
  by_cases none : liveThreadIds last = []
  · rw [if_pos none, none]
    exact ⟨true, _, rfl, Sized.of_reply (iff_of_true (by decide) rfl) (kept.still.post _)⟩
  · rw [if_neg none]
    refine ⟨true, _, rfl, Sized.of_reply ((threadInfo_fits env none).trans decide_eq_true_iff.symm) ?_⟩
    exact still.trans (kept.still.post _) (Quiet.still ⟨rfl, rfl, rfl, rfl, rfl⟩)

theorem handleQueryThreadInfo_sized (server : Server) :
    ∃ handled after, handleQueryThreadInfo env true server = (some handled, after) ∧
      Sized (threadInfoFits env server) server handled after := by
  have error := sized_of_serves (replyWithError_serves env .perm) server
  rw [handleQueryThreadInfo, read_bind, threadInfoFits]
  cases server.hasProcess with
  | false => exact error
  | true =>
      rw [if_not_true, if_not_true, read_bind]
      cases server.inThreadInfoSequence with
      | true => exact error
      | false => exact replyThreadInfo_sized env server

theorem auxvBytes_length (process : Process) : (auxvBytes process).length ≤ 96 := by
  rw [auxvBytes, auxv]
  split <;> simp [Registers.wordBytes_length]

theorem uint64_min_toNat (left right : UInt64) :
    (min left right).toNat = min left.toNat right.toNat := by
  rw [show min left right = if left ≤ right then left else right from rfl, Nat.min_def]
  split
  · rw [if_pos ‹_›]
  · rw [if_neg ‹_›]

/-- The subtraction wraps around when the offset lies behind the vector. -/
theorem auxvResponseLength_toNat (process : Process) (offset length : UInt64) :
    (auxvResponseLength process offset length).toNat =
      min ((2 ^ 64 - offset.toNat + (auxvBytes process).length) % 2 ^ 64) length.toNat := by
  have vector := auxvBytes_length process
  have size : (auxvBytes process).length.toUInt64.toNat = (auxvBytes process).length := by
    rw [Nat.toUInt64_eq, UInt64.toNat_ofNat']
    omega
  rw [auxvResponseLength, uint64_min_toNat, UInt64.toNat_sub, size]

theorem auxvResponse_length (process : Process) (stack : Nat → UInt64) (offset length : UInt64) :
    (auxvResponse process stack offset length).length =
      (1 + (auxvResponseLength process offset length).toNat) % 2 ^ 64 := by
  have letter : (ascii "l").length = 1 := rfl
  rw [auxvResponse, List.length_take, List.length_append, List.length_map, List.length_range,
    letter, UInt64.toNat_add]
  exact Nat.min_eq_left (Nat.mod_le _ _)

/-- `qXfer:auxv:read`: the window begins within the vector or is small enough.
One more than the largest length is nothing. -/
def auxvFits (process : Process) (offset length : UInt64) : Bool :=
  decide (offset.toNat ≤ (auxvBytes process).length) ||
    decide (length.toNat + 5 < RspServer.kMaxBufferSize) ||
    decide (offset.toNat = (auxvBytes process).length + 1 ∧ length.toNat = 2 ^ 64 - 1)

theorem auxvResponse_fits (process : Process) (stack : Nat → UInt64) {offset length : UInt64}
    (inside : ¬ offset > auxvSize) :
    Fits (auxvResponse process stack offset length) ↔ auxvFits process offset length = true := by
  have vector := auxvBytes_length process
  have size : offset.toNat ≤ 160 := UInt64.not_lt.mp inside
  have small : length.toNat < 2 ^ 64 := length.toNat_lt
  rw [Fits, auxvResponse_length, auxvResponseLength_toNat, auxvFits, RspServer.kMaxBufferSize]
  simp only [Bool.or_eq_true, decide_eq_true_eq]
  omega

def xferFits (params : Bytes) (server : Server) : Bool :=
  !Util.startsWith params (ascii "auxv:read::") ||
    match splitParams env ',' (params.drop (ascii "auxv:read::").length) with
    | [first, second] =>
        match parsePair env first second with
        | some (offset, length) =>
            !server.hasProcess || decide (offset > auxvSize) || auxvFits server.process offset length
        | none => true
    | _ => true

theorem handleQueryXfer_sized (params : Bytes) (server : Server) :
    ∃ handled after, handleQueryXfer env params server = (some handled, after) ∧
      Sized (xferFits env params server) server handled after := by
  have error (code : Util.ErrorCode) := sized_of_serves (replyWithError_serves env code) server
  rw [handleQueryXfer, xferFits]
  cases Util.startsWith params (ascii "auxv:read::") with
  | false => exact sized_of_serves pure_false_serves server
  | true =>
      rw [if_not_true, Bool.not_true, Bool.false_or]
      generalize splitParams env ',' (params.drop (ascii "auxv:read::").length) = window
      rcases window with _ | ⟨first, _ | ⟨second, _ | ⟨third, rest⟩⟩⟩
      · exact error .inval
      · exact error .inval
      · dsimp only
        rcases parsePair env first second with _ | ⟨offset, length⟩
        · exact error .inval
        · dsimp only
          rw [read_bind]
          cases server.hasProcess with
          | false => exact error .perm
          | true =>
              rw [if_not_true, Bool.not_true, Bool.false_or]
              by_cases outside : offset > auxvSize
              · rw [if_pos outside, decide_eq_true outside]
                exact error .inval
              · rw [if_neg outside, decide_eq_false outside, Bool.false_or]
                exact ⟨true, _, rfl, Sized.of_reply (auxvResponse_fits _ _ outside)
                  (Quiet.still ⟨rfl, rfl, rfl, rfl, rfl⟩)⟩
      · exact error .inval

def queryFits (name params : Bytes) (server : Server) : Bool :=
  if name = ascii "fThreadInfo" then threadInfoFits env server
  else if name = ascii "Xfer" then xferFits env params server
  else true

theorem handle_q_serves (name params : Bytes) (list : name ≠ ascii "fThreadInfo")
    (transfer : name ≠ ascii "Xfer") : (serves Fits).Meets (handle_q env name params) :=
  Meets.ite (fun _ => handleQueryAttached_serves env params) fun _ =>
    Meets.ite (fun _ => handleQueryCurrentThreadId_serves env params) fun _ =>
    Meets.ite (fun same => absurd same list) fun _ =>
    Meets.ite (fun _ => handleQueryRcmd_serves env _) fun _ =>
    Meets.ite (fun _ => handleQueryThreadInfo_rest_serves env) fun _ =>
    Meets.ite (fun _ => reply_serves (by decide)) fun _ =>
    Meets.ite (fun same => absurd same transfer) fun _ => pure_false_serves

theorem handle_q_sized (name params : Bytes) (server : Server) :
    ∃ handled after, handle_q env name params server = (some handled, after) ∧
      Sized (queryFits env name params server) server handled after := by
  by_cases list : name = ascii "fThreadInfo"
  · subst list
    exact handleQueryThreadInfo_sized env server
  · by_cases transfer : name = ascii "Xfer"
    · subst transfer
      exact handleQueryXfer_sized env params server
    · rw [queryFits, if_neg list, if_neg transfer]
      exact sized_of_serves (handle_q_serves env name params list transfer) server

/-- The response to the packet, if any, fits the output buffer. -/
def responseFits (packet : Bytes) (server : Server) : Bool :=
  match packet with
  | [] => true
  | command :: arguments =>
      if command = chr 'm' then memoryFits env arguments server
      else if command = chr 'q' then
        queryFits env (Util.extractParameters arguments).1 (Util.extractParameters arguments).2 server
      else true

theorem queryFits_observe (packet : Bytes) (server : Server) :
    queryFits env (Util.extractParameters packet).1 (Util.extractParameters packet).2
        (server.observe (queryEvents packet)) =
      queryFits env (Util.extractParameters packet).1 (Util.extractParameters packet).2 server := by
  cases packet with
  | nil => rfl
  | cons head rest =>
      have same : server.observe (queryEvents (head :: rest)) = server :=
        congrArg (fun log => { server with log := log }) (List.append_nil _)
      rw [same]

theorem handleQuery_sized (packet : Bytes) (server : Server) :
    ∃ handled after, handleQuery env true packet server = (some handled, after) ∧
      Sized (responseFits env (chr 'q' :: packet) server)
        (server.observe (queryEvents packet)) handled after := by
  have same : responseFits env (chr 'q' :: packet) server =
      queryFits env (Util.extractParameters packet).1 (Util.extractParameters packet).2
        (server.observe (queryEvents packet)) := (queryFits_observe env packet server).symm
  simp only [handleQuery, dcheck_eq, modify_bind]
  rw [same]
  exact handle_q_sized env _ _ (server.observe (queryEvents packet))

theorem handleSetQuery_served (packet : Bytes) (server : Server) :
    ∃ handled after, handleQuery env false packet server = (some handled, after) ∧
      Served Fits (server.observe (queryEvents packet)) handled after := by
  simp only [handleQuery, dcheck_eq, modify_bind]
  exact handle_Q_serves env _ _ (server.observe (queryEvents packet))

end CommandHandler

end Gdbserver
