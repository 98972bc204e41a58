import Gdbserver.Server.Attachment
import Gdbserver.Server.ResponseSizes

/-!
# Windows of the auxiliary vector

`qXfer:auxv:read` is asked for a window of a byte image. The response is copied
from an array of entries, so that its offset counts entries, and it always says
that nothing is left.
-/

set_option autoImplicit false

namespace Gdbserver

open Logic Prog

namespace CommandHandler

/-- The window a request asks for: `l` before the last one, `m` before the others. -/
def auxvWindow (image : Bytes) (offset length : Nat) : Bytes :=
  (if image.length ≤ offset + length then chr 'l' else chr 'm') :: (image.drop offset).take length

/-- The positions `memcpy` reads, counted in bytes from the first entry. -/
def auxvReads (process : Process) (offset length : UInt64) : List Nat :=
  if offset > auxvSize then []
  else (List.range (auxvResponseLength process offset length).toNat).map fun index =>
    16 * offset.toNat + index

/-- A response as the request calls for it, made of nothing but the image. -/
structure AuxvServed (env : Env) (image : Bytes) (offset length : Nat) (response : Bytes)
    (reads : List Nat) : Prop where
  window : offset ≤ image.length → response = auxvWindow image offset length
  beyond : image.length < offset →
    (∃ code, response = Util.buildErrorPacket env.ftl code) ∨ response = ascii "l"
  bounds : ∀ position ∈ reads, position < image.length

/-- Offset and length, once the parameters have been understood. -/
def auxvRequest (env : Env) (params : Bytes) : Option (UInt64 × UInt64) :=
  if !Util.startsWith params (ascii "auxv:read::") then none
  else
    match splitParams env ',' (params.drop (ascii "auxv:read::").length) with
    | [first, second] => parsePair env first second
    | _ => none

/-- What a request with these parameters is answered. -/
def auxvAnswer (env : Env) (process : Process) (stack : Nat → UInt64) (offset length : UInt64) :
    Bytes :=
  if offset > auxvSize then Util.buildErrorPacket env.ftl .inval
  else auxvResponse process stack offset length

theorem handleQueryXfer_answers {env : Env} {params : Bytes} {offset length : UInt64}
    (request : auxvRequest env params = some (offset, length)) {server : Server}
    (inferior : server.hasProcess = true) :
    ∃ after, handleQueryXfer env params server = (some true, after) ∧
      after.posted = server.posted ++
        [.write false (auxvAnswer env server.process (env.now .uninitialized server) offset length)] := by
  rw [auxvRequest] at request
  cases starts : Util.startsWith params (ascii "auxv:read::") with
  | false =>
      rw [starts, if_not_false] at request
      exact absurd request nofun
  | true =>
      rw [starts, if_not_true] at request
      rw [handleQueryXfer, starts, if_not_true]
      split at request
      · rename_i first second split
        rw [split]
        dsimp only
        rw [request]
        dsimp only
        rw [read_bind, inferior, if_not_true, auxvAnswer]
        by_cases outside : offset > auxvSize
        · rw [if_pos outside, if_pos outside]
          exact ⟨_, rfl, rfl⟩
        · rw [if_neg outside, if_neg outside]
          exact ⟨_, rfl, rfl⟩
      · exact absurd request nofun

section Response

variable (process : Process) (offset length : UInt64)

theorem auxvResponseLength_inside (inside : offset.toNat ≤ (auxvBytes process).length) :
    (auxvResponseLength process offset length).toNat =
      min ((auxvBytes process).length - offset.toNat) length.toNat := by
  have vector := auxvBytes_length process
  rw [auxvResponseLength_toNat]
  omega

theorem auxvResponse_inside (stack : Nat → UInt64)
    (inside : offset.toNat ≤ (auxvBytes process).length) :
    auxvResponse process stack offset length =
      chr 'l' :: (List.range (min ((auxvBytes process).length - offset.toNat) length.toNat)).map
        fun index => ((auxvBytes process)[16 * offset.toNat + index]?).getD
          (stack (16 * offset.toNat + index)).toUInt8 := by
  have vector := auxvBytes_length process
  have taken := auxvResponseLength_inside process offset length inside
  have one : (1 : UInt64).toNat = 1 := rfl
  have whole : (1 + auxvResponseLength process offset length).toNat =
      1 + (auxvResponseLength process offset length).toNat := by
    rw [UInt64.toNat_add, taken, one]
    exact Nat.mod_eq_of_lt (by omega)
  rw [auxvResponse, whole, List.take_of_length_le, taken]
  · rfl
  · have letter : (ascii "l").length = 1 := rfl
    rw [List.length_append, List.length_map, List.length_range, letter]

/-- From the first entry on, the window is copied as it should be. -/
theorem auxvResponse_start (stack : Nat → UInt64) :
    auxvResponse process stack 0 length = chr 'l' :: (auxvBytes process).take length.toNat := by
  rw [auxvResponse_inside process 0 length stack (Nat.zero_le _)]
  refine congrArg (List.cons (chr 'l')) (List.ext_getElem? fun index => ?_)
  have zero : (0 : UInt64).toNat = 0 := rfl
  rw [List.getElem?_map, zero, Nat.mul_zero, Nat.sub_zero, List.getElem?_take]
  by_cases before : index < min (auxvBytes process).length length.toNat
  · have short : index < length.toNat := Nat.lt_of_lt_of_le before (Nat.min_le_right _ _)
    have inside : index < (auxvBytes process).length :=
      Nat.lt_of_lt_of_le before (Nat.min_le_left _ _)
    rw [List.getElem?_range before, if_pos short, List.getElem?_eq_getElem inside]
    simp [inside]
  · rw [List.getElem?_eq_none (by rw [List.length_range]; omega)]
    split
    · rw [List.getElem?_eq_none (by omega)]
      rfl
    · rfl

/-- A copy up to the end stays within the image if it begins at the start or is empty. -/
theorem auxvReads_bounds_iff (inside : offset.toNat ≤ (auxvBytes process).length)
    (last : (auxvBytes process).length ≤ offset.toNat + length.toNat) :
    (∀ position ∈ auxvReads process offset length, position < (auxvBytes process).length) ↔
      offset.toNat = 0 ∨ offset.toNat = (auxvBytes process).length := by
  have vector := auxvBytes_length process
  have near : ¬ offset > auxvSize := by
    rw [gt_iff_lt, UInt64.lt_iff_toNat_lt]
    have size : auxvSize.toNat = 160 := rfl
    omega
  rw [auxvReads, if_neg near, auxvResponseLength_inside process offset length inside]
  simp only [List.forall_mem_map, List.mem_range]
  constructor
  · intro bounds
    by_contra neither
    have beyond := bounds ((auxvBytes process).length - offset.toNat - 1) (by omega)
    omega
  · intro either index below
    omega

variable (env : Env) (stack : Nat → UInt64)

/-- The window reaches the end: what counts is where the copy begins. -/
theorem auxvServed_last_iff (inside : offset.toNat ≤ (auxvBytes process).length)
    (last : (auxvBytes process).length ≤ offset.toNat + length.toNat) :
    AuxvServed env (auxvBytes process) offset.toNat length.toNat
        (auxvResponse process stack offset length) (auxvReads process offset length) ↔
      offset.toNat = 0 ∨ offset.toNat = (auxvBytes process).length := by
  constructor
  · intro served
    exact (auxvReads_bounds_iff process offset length inside last).mp served.bounds
  · intro ends
    refine ⟨fun _ => ?_, fun beyond => absurd inside (by omega),
      (auxvReads_bounds_iff process offset length inside last).mpr ends⟩
    rw [auxvWindow, if_pos last]
    rcases ends with start | finish
    · have zero : offset = 0 := UInt64.toNat_inj.mp start
      rw [start, List.drop_zero, zero, auxvResponse_start]
    · rw [auxvResponse_inside process offset length stack inside, finish, Nat.sub_self,
        Nat.zero_min, List.drop_length, List.take_nil]
      rfl

/-- A window that ends earlier should be followed by others, and is sent as the last one. -/
theorem not_auxvServed_earlier (earlier : offset.toNat + length.toNat < (auxvBytes process).length) :
    ¬ AuxvServed env (auxvBytes process) offset.toNat length.toNat
      (auxvResponse process stack offset length) (auxvReads process offset length) := by
  intro served
  have inside : offset.toNat ≤ (auxvBytes process).length := by omega
  have same := served.window inside
  rw [auxvResponse_inside process offset length stack inside, auxvWindow, if_neg (by omega)] at same
  exact absurd (List.cons.inj same).1 (by decide)

/-- Behind the image the length wraps around, and only an empty window is served. -/
theorem auxvServed_behind_iff (behind : (auxvBytes process).length < offset.toNat)
    (near : ¬ offset > auxvSize) :
    AuxvServed env (auxvBytes process) offset.toNat length.toNat
        (auxvResponse process stack offset length) (auxvReads process offset length) ↔
      length.toNat = 0 := by
  have vector := auxvBytes_length process
  have size : offset.toNat ≤ 160 := UInt64.not_lt.mp near
  have small := length.toNat_lt
  have taken := auxvResponseLength_toNat process offset length
  constructor
  · intro served
    by_contra some
    have first : 16 * offset.toNat + 0 ∈ auxvReads process offset length := by
      rw [auxvReads, if_neg near]
      exact List.mem_map.mpr ⟨0, List.mem_range.mpr (by omega), rfl⟩
    have inside := served.bounds _ first
    omega
  · intro none
    have empty : auxvResponseLength process offset length = 0 :=
      UInt64.toNat_inj.mp (by rw [taken, none, Nat.min_zero]; rfl)
    refine ⟨fun inside => absurd inside (by omega), fun _ => Or.inr ?_, ?_⟩
    · rw [auxvResponse, empty]
      rfl
    · rw [auxvReads, if_neg near, empty]
      exact List.forall_mem_nil _

/-- Which requests are served. -/
theorem auxvServed_iff :
    AuxvServed env (auxvBytes process) offset.toNat length.toNat
        (auxvAnswer env process stack offset length) (auxvReads process offset length) ↔
      offset.toNat = (auxvBytes process).length ∨
        (offset = 0 ∧ (auxvBytes process).length ≤ length.toNat) ∨ auxvSize < offset ∨
          ((auxvBytes process).length < offset.toNat ∧ length = 0) := by
  have vector := auxvBytes_length process
  have zero (value : UInt64) : value = 0 ↔ value.toNat = 0 := UInt64.toNat_inj.symm
  by_cases outside : auxvSize < offset
  · have far : 160 < offset.toNat := UInt64.lt_iff_toNat_lt.mp outside
    refine iff_of_true ⟨fun inside => absurd inside (by omega), fun _ => Or.inl ⟨.inval, ?_⟩, ?_⟩
      (Or.inr (Or.inr (Or.inl outside)))
    · rw [auxvAnswer, if_pos outside]
    · rw [auxvReads, if_pos outside]
      exact List.forall_mem_nil _
  · rw [auxvAnswer, if_neg outside, zero, zero]
    simp only [outside, false_or]
    rcases Nat.lt_or_ge (auxvBytes process).length offset.toNat with behind | inside
    · rw [auxvServed_behind_iff process offset length env stack behind outside]
      omega
    · rcases Nat.lt_or_ge (offset.toNat + length.toNat) (auxvBytes process).length with
        earlier | last
      · refine iff_of_false (not_auxvServed_earlier process offset length env stack earlier) ?_
        omega
      · rw [auxvServed_last_iff process offset length env stack inside last]
        omega

end Response

/-- How a client puts the image together: window after window until one is marked
as the last. -/
def reassemble (answer : UInt64 → Bytes) : Nat → UInt64 → Bytes
  | 0, _ => []
  | windows + 1, offset =>
      match answer offset with
      | [] => []
      | marker :: data =>
          if marker = chr 'm' then data ++ reassemble answer windows (offset + data.length.toUInt64)
          else data

/-- The client stops after the first window. -/
theorem reassemble_auxvAnswer (env : Env) (process : Process) (stack : UInt64 → Nat → UInt64)
    (width : UInt64) (windows : Nat) :
    reassemble (fun offset => auxvAnswer env process (stack offset) offset width) (windows + 1) 0 =
      (auxvBytes process).take width.toNat := by
  have near : ¬ (0 : UInt64) > auxvSize := by decide
  rw [reassemble, auxvAnswer, if_neg near, auxvResponse_start]
  exact if_neg (by decide)

/-- A request is served exactly if it asks for everything from the start, for nothing
from the end on, or from too far behind; so a client gets the whole vector exactly if
its first window is large enough. -/
theorem handleQueryXfer_serves_iff (env : Env) (params : Bytes) (offset length : UInt64)
    (server : Server) (request : auxvRequest env params = some (offset, length))
    (inferior : server.hasProcess = true) :
    let image := auxvBytes server.process
    (∃ after response, handleQueryXfer env params server = (some true, after) ∧
      after.posted = server.posted ++ [.write false response] ∧
      (AuxvServed env image offset.toNat length.toNat response
          (auxvReads server.process offset length) ↔
        offset.toNat = image.length ∨ (offset = 0 ∧ image.length ≤ length.toNat) ∨
          auxvSize < offset ∨ (image.length < offset.toNat ∧ length = 0))) ∧
    ∀ (stack : UInt64 → Nat → UInt64) (width : UInt64) (windows : Nat),
      reassemble (fun offset => auxvAnswer env server.process (stack offset) offset width)
          (windows + 1) 0 = image ↔ image.length ≤ width.toNat := by
  intro image
  obtain ⟨after, ran, posted⟩ := handleQueryXfer_answers request inferior
  refine ⟨⟨after, _, ran, posted, auxvServed_iff _ _ _ env _⟩, fun stack width windows => ?_⟩
  rw [reassemble_auxvAnswer]
  exact List.take_eq_self_iff _

end CommandHandler

namespace Debugserver

open CommandHandler

/-- The server before it has run anything: the vector has two entries. -/
def unstarted : Server := (started obliging program).core

theorem wholeVector_served :
    auxvRequest obliging (ascii "auxv:read::0,1000") = some (0, 0x1000) ∧
      ∃ after response, handleQueryXfer obliging (ascii "auxv:read::0,1000") unstarted =
          (some true, after) ∧ after.posted = unstarted.posted ++ [.write false response] ∧
        AuxvServed obliging (auxvBytes unstarted.process) 0 0x1000 response
          (auxvReads unstarted.process 0 0x1000) := by
  have request : auxvRequest obliging (ascii "auxv:read::0,1000") = some (0, 0x1000) := by
    decide +kernel
  obtain ⟨⟨after, response, ran, posted, served⟩, _⟩ :=
    handleQueryXfer_serves_iff obliging (ascii "auxv:read::0,1000") 0 0x1000 unstarted request
      (by decide +kernel)
  exact ⟨request, after, response, ran, posted,
    served.mpr (Or.inr (Or.inl ⟨rfl, by decide +kernel⟩))⟩

/-- A client that reads 16 bytes at a time takes the first entry for the whole
vector. The window after it is copied from behind the array. -/
theorem smallWindows_misread :
    auxvRequest obliging (ascii "auxv:read::10,10") = some (16, 16) ∧
      (auxvBytes unstarted.process).length = 32 ∧
      reassemble (fun offset => auxvAnswer obliging unstarted.process (fun _ => 0) offset 16) 2 0 =
        (auxvBytes unstarted.process).take 16 ∧
      auxvReads unstarted.process 16 16 = List.range' 256 16 ∧
      (auxvAnswer obliging unstarted.process (fun _ => 0x5a) 16 16) =
        chr 'l' :: List.replicate 16 0x5a := by
  decide +kernel

end Debugserver

end Gdbserver
