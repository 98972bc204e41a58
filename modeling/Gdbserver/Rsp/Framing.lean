import Gdbserver.Rsp.Packet

/-!
# Frames and escapes

A frame is the payload between its start byte and its checksum. The encoder
knows nothing of escapes, while both scans of `VerifyPacket` skip the byte after
an escape character, so not every payload comes back from its own frame.
-/

set_option autoImplicit false

namespace Gdbserver

namespace Util

/-- The bytes around a payload: `%` starts a notification, `$` a packet. -/
def frame (notify : Bool) (data : Bytes) : Bytes :=
  (if notify then chr '%' else chr '$') ::
    (data ++ chr '#' :: encodeByteString (checksum data))

/-- Reading left to right with `}` escaping the byte after it: no unescaped
`mark`, and no escape without its byte. -/
inductive Clear (mark : UInt8) : Bytes → Prop where
  | nil : Clear mark []
  | plain {byte : UInt8} {rest : Bytes} (ordinary : byte ≠ kEscapeChar)
      (other : byte ≠ mark) : Clear mark rest → Clear mark (byte :: rest)
  | pair (byte : UInt8) {rest : Bytes} :
      Clear mark rest → Clear mark (kEscapeChar :: byte :: rest)

section Clear

variable {mark : UInt8}

theorem clear_plain_iff {byte : UInt8} (ordinary : byte ≠ kEscapeChar) (rest : Bytes) :
    Clear mark (byte :: rest) ↔ byte ≠ mark ∧ Clear mark rest := by
  constructor
  · intro clear
    cases clear with
    | plain _ other later => exact ⟨other, later⟩
    | pair => exact absurd rfl ordinary
  · rintro ⟨other, later⟩
    exact .plain ordinary other later

theorem clear_pair_iff (byte : UInt8) (rest : Bytes) :
    Clear mark (kEscapeChar :: byte :: rest) ↔ Clear mark rest := by
  constructor
  · intro clear
    cases clear with
    | plain ordinary => exact absurd rfl ordinary
    | pair _ later => exact later
  · exact .pair byte

theorem not_clear_dangling : ¬ Clear mark [kEscapeChar] := by
  intro clear
  cases clear with
  | plain ordinary => exact absurd rfl ordinary

def isClear (mark : UInt8) : Bytes → Bool
  | [] => true
  | [byte] => byte ≠ kEscapeChar ∧ byte ≠ mark
  | byte :: next :: rest =>
      if byte = kEscapeChar then isClear mark rest
      else byte ≠ mark ∧ isClear mark (next :: rest)

theorem isClear_iff (data : Bytes) : isClear mark data = true ↔ Clear mark data := by
  fun_induction isClear mark data with
  | case1 => exact ⟨fun _ => .nil, fun _ => rfl⟩
  | case2 byte =>
      rw [decide_eq_true_iff]
      by_cases escape : byte = kEscapeChar
      · subst escape
        exact ⟨fun both => absurd rfl both.1, fun clear => absurd clear not_clear_dangling⟩
      · rw [clear_plain_iff escape]
        exact ⟨fun both => ⟨both.2, .nil⟩, fun both => ⟨escape, both.1⟩⟩
  | case3 next rest ih => rw [clear_pair_iff, ih]
  | case4 byte next rest escape ih =>
      rw [decide_eq_true_iff, ih, clear_plain_iff escape]

instance (data : Bytes) : Decidable (Clear mark data) :=
  decidable_of_iff _ (isClear_iff data)

theorem Clear.append {left right : Bytes} (first : Clear mark left) (second : Clear mark right) :
    Clear mark (left ++ right) := by
  induction first with
  | nil => exact second
  | plain ordinary other _ ih => exact .plain ordinary other ih
  | pair byte _ ih => exact .pair byte ih

/-- Strings without either special byte need no escapes. -/
theorem clear_of_forall {data : Bytes}
    (ordinary : ∀ byte ∈ data, byte ≠ kEscapeChar ∧ byte ≠ mark) : Clear mark data := by
  induction data with
  | nil => exact .nil
  | cons byte rest ih =>
      obtain ⟨here, later⟩ := List.forall_mem_cons.mp ordinary
      exact .plain here.1 here.2 (ih later)

/-! ## The scan for an unescaped byte -/

theorem findUnescapedFrom_pair (index : Nat) (byte : UInt8) (rest : Bytes) :
    findUnescapedFrom mark false index (kEscapeChar :: byte :: rest) =
      findUnescapedFrom mark false (index + 2) rest := by
  simp [findUnescapedFrom]

theorem findUnescapedFrom_skip {byte : UInt8} (ordinary : byte ≠ kEscapeChar)
    (other : byte ≠ mark) (index : Nat) (rest : Bytes) :
    findUnescapedFrom mark false index (byte :: rest) =
      findUnescapedFrom mark false (index + 1) rest := by
  simp [findUnescapedFrom, ordinary, other]

theorem findUnescapedFrom_found (ordinary : mark ≠ kEscapeChar) (index : Nat) (rest : Bytes) :
    findUnescapedFrom mark false index (mark :: rest) = some index := by
  simp [findUnescapedFrom, ordinary]

theorem findUnescapedFrom_clear {data : Bytes} (clear : Clear mark data) (index : Nat)
    (rest : Bytes) :
    findUnescapedFrom mark false index (data ++ rest) =
      findUnescapedFrom mark false (index + data.length) rest := by
  induction clear generalizing index with
  | nil => rfl
  | plain ordinary other _ ih =>
      rw [List.cons_append, findUnescapedFrom_skip ordinary other, ih, List.length_cons,
        Nat.add_assoc, Nat.add_comm 1]
  | pair byte _ ih =>
      rw [List.cons_append, List.cons_append, findUnescapedFrom_pair, ih, List.length_cons,
        List.length_cons, Nat.add_assoc, Nat.add_comm 2]

theorem Clear.append_inj {left right rest more : Bytes} (ordinary : mark ≠ kEscapeChar)
    (first : Clear mark left) (second : Clear mark right)
    (same : left ++ mark :: rest = right ++ mark :: more) : left = right ∧ mark :: rest = mark :: more := by
  have found : findUnescapedFrom mark false 0 (left ++ mark :: rest) = some (0 + left.length) := by
    rw [findUnescapedFrom_clear first, findUnescapedFrom_found ordinary]
  have again : findUnescapedFrom mark false 0 (right ++ mark :: more) = some (0 + right.length) := by
    rw [findUnescapedFrom_clear second, findUnescapedFrom_found ordinary]
  rw [same, again, Option.some.injEq, Nat.zero_add, Nat.zero_add] at found
  exact List.append_inj same found.symm

/-- What the scan finds is the end of the longest clear start. -/
theorem findUnescapedFrom_split (index found : Nat) (bytes : Bytes)
    (scan : findUnescapedFrom mark false index bytes = some found) :
    ∃ data rest, bytes = data ++ mark :: rest ∧ Clear mark data ∧ found = index + data.length := by
  fun_induction isClear mark bytes generalizing index with
  | case1 => exact absurd scan nofun
  | case2 byte =>
      by_cases escape : byte = kEscapeChar
      · subst escape
        exact absurd scan (by simp [findUnescapedFrom])
      · by_cases same : byte = mark
        · subst same
          rw [findUnescapedFrom_found escape] at scan
          cases scan
          exact ⟨[], [], rfl, .nil, rfl⟩
        · rw [findUnescapedFrom_skip escape same] at scan
          exact absurd scan nofun
  | case3 next rest ih =>
      rw [findUnescapedFrom_pair] at scan
      obtain ⟨data, after, rfl, clear, rfl⟩ := ih (index + 2) scan
      refine ⟨kEscapeChar :: next :: data, after, rfl, .pair next clear, ?_⟩
      simp only [List.length_cons]
      omega
  | case4 byte next rest escape ih =>
      by_cases same : byte = mark
      · subst same
        rw [findUnescapedFrom_found escape] at scan
        cases scan
        exact ⟨[], next :: rest, rfl, .nil, rfl⟩
      · rw [findUnescapedFrom_skip escape same] at scan
        obtain ⟨data, after, split, clear, rfl⟩ := ih (index + 1) scan
        refine ⟨byte :: data, after, by rw [split, List.cons_append], .plain escape same clear, ?_⟩
        simp only [List.length_cons]
        omega

end Clear

/-! ## Packets on the wire -/

/-- `$data#cc`, with a checksum that decodes to the sum of the data. -/
structure IsPacket (data bytes : Bytes) : Prop where
  clear : Clear (chr '#') data
  digits : ∃ first second, bytes = chr '$' :: (data ++ [chr '#', first, second]) ∧
    decodeByteString first second = some (checksum data)

theorem decodeByteString_encodeByteString (byte : UInt8) :
    ∃ first second, encodeByteString byte = [first, second] ∧
      decodeByteString first second = some byte := by
  have every : ∀ value : Fin 256,
      decodeByteString (halfByteToHexChar (UInt8.ofFin value >>> 4))
        (halfByteToHexChar (UInt8.ofFin value &&& 0x0f)) = some (UInt8.ofFin value) := by
    decide +kernel
  exact ⟨_, _, rfl, every byte.toFin⟩

theorem isPacket_frame {data : Bytes} (clear : Clear (chr '#') data) :
    IsPacket data (frame false data) := by
  obtain ⟨first, second, written, decoded⟩ := decodeByteString_encodeByteString (checksum data)
  exact ⟨clear, first, second, by rw [frame, written]; rfl, decoded⟩

theorem IsPacket.start {data bytes : Bytes} (packet : IsPacket data bytes) :
    ∃ tail, bytes = chr '$' :: tail := by
  obtain ⟨-, first, second, rfl, -⟩ := packet
  exact ⟨_, rfl⟩

/-- A packet says itself where it ends. -/
theorem IsPacket.unique {data other bytes packet rest more : Bytes} (first : IsPacket data bytes)
    (second : IsPacket other packet) (same : bytes ++ rest = packet ++ more) :
    data = other ∧ rest = more := by
  obtain ⟨clear, _, _, rfl, -⟩ := first
  obtain ⟨clearOther, _, _, rfl, -⟩ := second
  simp only [List.cons_append, List.append_assoc, List.nil_append, List.cons.injEq, true_and] at same
  obtain ⟨payload, later⟩ := clear.append_inj (by decide) clearOther same
  simp only [List.cons.injEq] at later
  exact ⟨payload, later.2.2.2⟩

/-- Everything before the first unescaped `$` is ignored. -/
theorem verifyPacket_skip {skipped : Bytes} (clear : Clear (chr '$') skipped) (tail : Bytes) :
    verifyPacket (skipped ++ chr '$' :: tail) = verifyPacket (chr '$' :: tail) := by
  have start : findUnescapedChar (chr '$') (skipped ++ chr '$' :: tail) = some skipped.length := by
    rw [findUnescapedChar, findUnescapedFrom_clear clear, findUnescapedFrom_found (by decide),
      Nat.zero_add]
  have here : findUnescapedChar (chr '$') (chr '$' :: tail) = some 0 :=
    findUnescapedFrom_found (by decide) 0 tail
  have nonempty : skipped ++ chr '$' :: tail ≠ [] := by simp
  simp only [verifyPacket, start, here, if_neg nonempty, List.drop_left, List.drop_zero,
    reduceCtorEq, if_false]

theorem verifyPacket_isPacket {data bytes : Bytes} (packet : IsPacket data bytes) :
    verifyPacket bytes = some data := by
  obtain ⟨clear, first, second, rfl, decoded⟩ := packet
  have start (tail : Bytes) : findUnescapedChar (chr '$') (chr '$' :: tail) = some 0 :=
    findUnescapedFrom_found (by decide) 0 tail
  have stop : findUnescapedChar (chr '#') (chr '$' :: (data ++ [chr '#', first, second])) =
      some (1 + data.length) := by
    rw [findUnescapedChar, findUnescapedFrom_skip (by decide) (by decide),
      findUnescapedFrom_clear clear, findUnescapedFrom_found (by decide), Nat.zero_add]
  have after : (chr '$' :: (data ++ [chr '#', first, second])).drop (1 + data.length + 1) =
      [first, second] := by
    rw [show 1 + data.length + 1 = data.length + 1 + 1 by omega, List.drop_succ_cons,
      List.drop_append]
    simp
  have four : data.length + 3 + 1 - data.length = 4 := by omega
  simp [verifyPacket, start, stop, after, decoded, four]

/-- An accepted read ends with its packet, and holds no other `$` before it. -/
theorem verifyPacket_split {data bytes : Bytes} (accepted : verifyPacket bytes = some data) :
    ∃ skipped packet, bytes = skipped ++ packet ∧ Clear (chr '$') skipped ∧
      IsPacket data packet := by
  have nonempty : bytes ≠ [] := by
    rintro rfl
    exact absurd accepted nofun
  rw [verifyPacket, if_neg nonempty] at accepted
  cases start : findUnescapedChar (chr '$') bytes with
  | none => rw [start] at accepted; exact absurd accepted nofun
  | some dollarSign =>
      obtain ⟨skipped, tail, rfl, clear, rfl⟩ := findUnescapedFrom_split 0 dollarSign bytes start
      refine ⟨skipped, chr '$' :: tail, rfl, clear, ?_⟩
      simp only [start, Nat.zero_add, List.drop_left] at accepted
      cases stop : findUnescapedChar (chr '#') (chr '$' :: tail) with
      | none => simp [stop] at accepted
      | some pound =>
          have scan := stop
          rw [findUnescapedChar, findUnescapedFrom_skip (by decide) (by decide)] at scan
          obtain ⟨payload, rest, rfl, inside, rfl⟩ := findUnescapedFrom_split _ pound tail scan
          have end_eq : 0 + 1 + payload.length - 1 = payload.length := by omega
          have after : (chr '$' :: (payload ++ chr '#' :: rest)).drop (0 + 1 + payload.length + 1) =
              rest := by
            rw [show 0 + 1 + payload.length + 1 = payload.length + 1 + 1 by omega,
              List.drop_succ_cons, List.drop_append]
            simp
          simp only [stop, after, end_eq, List.drop_succ_cons, List.drop_zero,
            List.take_left] at accepted
          rcases rest with _ | ⟨first, _ | ⟨second, more⟩⟩
          · simp at accepted
          · simp at accepted
          · cases more with
            | cons third others =>
                have long : ¬ payload.length + (others.length + 1 + 1 + 1 + 1) + 1 -
                    payload.length = 4 := by omega
                simp [long] at accepted
            | nil =>
                cases decoded : decodeByteString first second with
                | none => simp [decoded] at accepted
                | some received =>
                    simp only [decoded, Option.ite_none_right_eq_some, Option.some.injEq,
                      Option.ite_none_left_eq_some] at accepted
                    obtain ⟨_, _, same, rfl⟩ := accepted
                    exact ⟨inside, first, second, rfl, same ▸ decoded⟩

theorem not_clear_self (mark : UInt8) (rest : Bytes) (ordinary : mark ≠ kEscapeChar) :
    ¬ Clear mark (mark :: rest) := fun clear =>
  ((clear_plain_iff ordinary rest).mp clear).1 rfl

/-- Which payloads come back from their own frame. -/
theorem verifyPacket_frame (data : Bytes) :
    verifyPacket (frame false data) = if Clear (chr '#') data then some data else none := by
  split
  · exact verifyPacket_isPacket (isPacket_frame ‹_›)
  · rename_i unclear
    by_contra accepted
    obtain ⟨payload, accepted⟩ := Option.ne_none_iff_exists'.mp accepted
    obtain ⟨skipped, packet, split, before, clear, first, second, rfl, _⟩ :=
      verifyPacket_split accepted
    cases skipped with
    | nil =>
        have same : data ++ chr '#' :: encodeByteString (checksum data) =
            payload ++ [chr '#', first, second] := (List.cons.inj split).2
        have equal : data = payload := (List.append_inj' same rfl).1
        exact unclear (equal ▸ clear)
    | cons byte rest =>
        have dollar : chr '$' = byte := (List.cons.inj split).1
        exact not_clear_self (chr '$') rest (by decide) (dollar ▸ before)

end Util

end Gdbserver
