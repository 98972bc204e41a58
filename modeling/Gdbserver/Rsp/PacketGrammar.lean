import Gdbserver.Logic.Escapes
import Gdbserver.Logic.Prog
import Gdbserver.Rsp.Framing

/-!
# The packet grammar

`VerifyPacket` finds a packet by two scans and a length. The grammar says where
the packet is without either: by the positions of the unescaped delimiters.
-/

set_option autoImplicit false

namespace Gdbserver

open Logic Prog

namespace Util

/-- `VerifyPacket` as it is called: the state is the view that `out_packet_data`
points to. -/
def verifyPacketInto (bytes : Bytes) : Prog Bytes Bool :=
  if bytes = [] then pure false
  else match findUnescapedChar (chr '$') bytes with
  | none => pure false
  | some dollarSign =>
      let packet := bytes.drop dollarSign
      if packet.length < 4 then pure false
      else match findUnescapedChar (chr '#') packet with
        | none => pure false
        | some pound =>
            let packetData := (packet.drop 1).take (pound - 1)
            if packet.length - packetData.length ≠ 4 then pure false
            else match packet.drop (pound + 1) with
              | first :: second :: _ =>
                  match decodeByteString first second with
                  | none => pure false
                  | some received =>
                      if checksum packetData ≠ received then pure false
                      else do
                        modify fun _ => packetData
                        pure true
              | _ => pure false

/-- The view is written once everything has been checked, and not before. -/
theorem verifyPacketInto_eq (bytes out : Bytes) :
    verifyPacketInto bytes out =
      (some (verifyPacket bytes).isSome, (verifyPacket bytes).getD out) := by
  unfold verifyPacketInto verifyPacket
  by_cases empty : bytes = []
  · rw [if_pos empty, if_pos empty]
    rfl
  rw [if_neg empty, if_neg empty]
  cases findUnescapedChar (chr '$') bytes with
  | none => rfl
  | some dollarSign =>
      dsimp only
      generalize bytes.drop dollarSign = packet
      by_cases short : packet.length < 4
      · rw [if_pos short, if_pos short]
        rfl
      rw [if_neg short, if_neg short]
      cases findUnescapedChar (chr '#') packet with
      | none => rfl
      | some pound =>
          dsimp only
          generalize (packet.drop 1).take (pound - 1) = packetData
          by_cases sized : packet.length - packetData.length ≠ 4
          · rw [if_pos sized, if_pos sized]
            rfl
          rw [if_neg sized, if_neg sized]
          match packet.drop (pound + 1) with
          | [] | [_] => rfl
          | first :: second :: _ =>
              dsimp only
              cases decodeByteString first second with
              | none => rfl
              | some received =>
                  dsimp only
                  by_cases same : checksum packetData = received
                  · rw [if_neg (not_not.mpr same), if_pos same]
                    rfl
                  · rw [if_pos same, if_neg same]
                    rfl

/-! ## Checksums -/

theorem checksum_foldl (sum : UInt8) (data : Bytes) :
    (data.foldl (· + ·) sum).toNat = (sum.toNat + (data.map UInt8.toNat).sum) % 256 := by
  induction data generalizing sum with
  | nil =>
      have small := sum.toNat_lt
      simp only [List.foldl_nil, List.map_nil, List.sum_nil, Nat.add_zero]
      omega
  | cons byte rest ih =>
      rw [List.foldl_cons, ih, UInt8.toNat_add, List.map_cons, List.sum_cons]
      omega

theorem checksum_toNat (data : Bytes) :
    (checksum data).toNat = (data.map UInt8.toNat).sum % 256 := by
  rw [checksum, checksum_foldl]
  simp

/-- A digit of either case and its value. -/
def HexDigit (digit : UInt8) (value : Nat) : Prop :=
  (ascii "0123456789abcdef")[value]? = some digit ∨ (ascii "0123456789ABCDEF")[value]? = some digit

instance (digit : UInt8) (value : Nat) : Decidable (HexDigit digit value) :=
  inferInstanceAs (Decidable (_ ∨ _))

theorem HexDigit.value_lt {digit : UInt8} {value : Nat} (digits : HexDigit digit value) :
    value < 16 := by
  rcases digits with lower | upper
  · exact (List.getElem?_eq_some_iff.mp lower).1
  · exact (List.getElem?_eq_some_iff.mp upper).1

theorem hexCharToByte_iff (digit value : UInt8) :
    hexCharToByte digit = some value ↔ HexDigit digit value.toNat := by
  have reads : ∀ digit : Fin 256, (hexCharToByte (UInt8.ofFin digit)).all
      (fun value => HexDigit (UInt8.ofFin digit) value.toNat) = true := by decide +kernel
  have spells : ∀ value : Fin 16,
      (ascii "0123456789abcdef")[value.val]?.bind hexCharToByte = some value.val.toUInt8 ∧
        (ascii "0123456789ABCDEF")[value.val]?.bind hexCharToByte = some value.val.toUInt8 := by
    decide +kernel
  constructor
  · intro read
    have digits := reads digit.toFin
    change (hexCharToByte digit).all _ = true at digits
    rw [read, Option.all_some, decide_eq_true_eq] at digits
    exact digits
  · intro digits
    have below := digits.value_lt
    obtain ⟨lowerCase, upperCase⟩ := spells ⟨value.toNat, below⟩
    have same : value.toNat.toUInt8 = value := UInt8.ofNat_toNat
    rcases digits with lower | upper
    · rwa [lower, Option.bind_some, same] at lowerCase
    · rwa [upper, Option.bind_some, same] at upperCase

/-- Two digits are read as the number they spell. -/
theorem decodeByteString_iff (first second value : UInt8) :
    decodeByteString first second = some value ↔
      ∃ high low, HexDigit first high ∧ HexDigit second low ∧ 16 * high + low = value.toNat := by
  have joined : ∀ high low : Fin 16,
      (low.val.toUInt8 ||| (high.val.toUInt8 <<< 4)).toNat = 16 * high.val + low.val := by
    decide +kernel
  have spells (high low : UInt8) (below : high.toNat < 16) (lowBelow : low.toNat < 16) :
      (low ||| (high <<< 4)).toNat = 16 * high.toNat + low.toNat := by
    have read := joined ⟨high.toNat, below⟩ ⟨low.toNat, lowBelow⟩
    simp only [Nat.toUInt8_eq, UInt8.ofNat_toNat] at read
    exact read
  have digit {byte : UInt8} {value : Nat} (digits : HexDigit byte value) :
      ∃ read, hexCharToByte byte = some read ∧ read.toNat = value := by
    have same : value.toUInt8.toNat = value := by
      rw [Nat.toUInt8_eq, UInt8.toNat_ofNat']
      exact Nat.mod_eq_of_lt (Nat.lt_trans digits.value_lt (by decide))
    exact ⟨value.toUInt8, (hexCharToByte_iff _ _).mpr (same.symm ▸ digits), same⟩
  constructor
  · intro decoded
    unfold decodeByteString at decoded
    split at decoded
    · rename_i msb lsb readHigh readLow
      have high := (hexCharToByte_iff _ _).mp readHigh
      have low := (hexCharToByte_iff _ _).mp readLow
      refine ⟨msb.toNat, lsb.toNat, high, low, ?_⟩
      rw [← spells msb lsb high.value_lt low.value_lt, Option.some.inj decoded]
    · exact absurd decoded nofun
  · rintro ⟨high, low, highDigit, lowDigit, total⟩
    obtain ⟨msb, readHigh, rfl⟩ := digit highDigit
    obtain ⟨lsb, readLow, rfl⟩ := digit lowDigit
    rw [decodeByteString, readHigh, readLow]
    refine congrArg some (UInt8.toNat_inj.mp ?_)
    rw [spells msb lsb highDigit.value_lt lowDigit.value_lt, total]

/-! ## Positions -/

/-- A clear start is one that ends right before the first unescaped mark. -/
theorem clear_iff_firstUnescaped {mark : UInt8} (ordinary : mark ≠ kEscapeChar) (data rest : Bytes) :
    Clear mark data ↔
      FirstUnescaped kEscapeChar mark (data ++ mark :: rest) data.length := by
  fun_induction isClear mark data with
  | case1 => exact iff_of_true .nil (firstUnescaped_zero rest)
  | case2 byte =>
      by_cases escape : byte = kEscapeChar
      · subst escape
        exact iff_of_false not_clear_dangling (not_firstUnescaped_one _)
      · rw [clear_plain_iff escape]
        refine Iff.trans ?_ (firstUnescaped_cons escape _ 0).symm
        exact and_congr_right fun _ => iff_of_true .nil (firstUnescaped_zero rest)
  | case3 next rest' ih =>
      rw [clear_pair_iff, ih]
      exact (firstUnescaped_pair ordinary next _ rest'.length).symm
  | case4 byte next rest' escape ih =>
      rw [clear_plain_iff escape, ih]
      exact (firstUnescaped_cons escape _ (rest'.length + 1)).symm

/-- A packet in what has been read: the `$` is the first unescaped one, the `#` the
first unescaped one from there on, and two digits that spell the sum of the data
come last. -/
structure Grammar (bytes skipped data : Bytes) (first second : UInt8) : Prop where
  shape : bytes = skipped ++ chr '$' :: (data ++ [chr '#', first, second])
  start : FirstUnescaped kEscapeChar (chr '$') bytes skipped.length
  stop : FirstUnescaped kEscapeChar (chr '#') (bytes.drop skipped.length) (data.length + 1)
  digits : ∃ high low, HexDigit first high ∧ HexDigit second low ∧
    16 * high + low = (data.map UInt8.toNat).sum % 256

theorem grammar_iff (bytes skipped data : Bytes) (first second : UInt8) :
    Grammar bytes skipped data first second ↔
      bytes = skipped ++ chr '$' :: (data ++ [chr '#', first, second]) ∧
        Clear (chr '$') skipped ∧ Clear (chr '#') data ∧
          decodeByteString first second = some (checksum data) := by
  have pound : chr '#' ≠ kEscapeChar := by decide
  have dollar : chr '$' ≠ kEscapeChar := by decide
  have before := clear_iff_firstUnescaped dollar skipped (data ++ [chr '#', first, second])
  have inside := clear_iff_firstUnescaped pound data [first, second]
  have shifted : FirstUnescaped kEscapeChar (chr '#')
      (chr '$' :: (data ++ [chr '#', first, second])) (data.length + 1) ↔
        Clear (chr '#') data := by
    rw [firstUnescaped_cons dollar, inside]
    exact and_iff_right (by decide)
  rw [decodeByteString_iff, checksum_toNat]
  constructor
  · rintro ⟨rfl, start, stop, digits⟩
    rw [List.drop_left] at stop
    exact ⟨rfl, before.mpr start, shifted.mp stop, digits⟩
  · rintro ⟨rfl, start, stop, digits⟩
    refine ⟨rfl, before.mp start, ?_, digits⟩
    rw [List.drop_left]
    exact shifted.mpr stop

theorem verifyPacket_iff (bytes data : Bytes) :
    verifyPacket bytes = some data ↔ ∃ skipped first second, Grammar bytes skipped data first second := by
  constructor
  · intro accepted
    obtain ⟨skipped, _, rfl, before, inside, first, second, rfl, decoded⟩ :=
      verifyPacket_split accepted
    exact ⟨skipped, first, second, (grammar_iff ..).mpr ⟨rfl, before, inside, decoded⟩⟩
  · rintro ⟨skipped, first, second, grammar⟩
    obtain ⟨rfl, before, inside, decoded⟩ := (grammar_iff ..).mp grammar
    rw [verifyPacket_skip before]
    exact verifyPacket_isPacket ⟨inside, first, second, rfl, decoded⟩

/-- Exactly the strings of the grammar are accepted, with the data between the
delimiters as the payload; otherwise the view is as it was. -/
theorem verifyPacketInto_accepts_iff (bytes out : Bytes) :
    ∃ accepted view, verifyPacketInto bytes out = (some accepted, view) ∧
      (∀ data, (accepted = true ∧ view = data) ↔
        ∃ skipped first second, Grammar bytes skipped data first second) ∧
      (accepted = false → view = out) := by
  refine ⟨_, _, verifyPacketInto_eq bytes out, fun data => ?_, fun rejected => ?_⟩
  · rw [← verifyPacket_iff]
    cases verifyPacket bytes with
    | none => exact iff_of_false (fun both => absurd both.1 nofun) nofun
    | some payload => exact ⟨fun both => congrArg some both.2, fun same => ⟨rfl, Option.some.inj same⟩⟩
  · rw [Option.isSome_eq_false_iff, Option.isNone_iff_eq_none] at rejected
    rw [rejected]
    rfl

/-! ## Corrupted packets -/

/-- Where the view of an accepted packet begins. -/
def payloadOffset (bytes : Bytes) : Option Nat := (findUnescapedChar (chr '$') bytes).map (· + 1)

theorem sum_map_set (data : Bytes) (position : Nat) (old byte : UInt8)
    (there : data[position]? = some old) :
    ((data.set position byte).map UInt8.toNat).sum + old.toNat =
      (data.map UInt8.toNat).sum + byte.toNat := by
  induction data generalizing position with
  | nil => exact absurd there nofun
  | cons head rest ih =>
      cases position with
      | zero =>
          cases there
          simp only [List.set_cons_zero, List.map_cons, List.sum_cons]
          omega
      | succ position =>
          have later := ih position there
          simp only [List.set_cons_succ, List.map_cons, List.sum_cons]
          omega

/-- One byte more or less changes the sum, for every byte is less than 256. -/
theorem checksum_set_ne {data : Bytes} {position : Nat} {old byte : UInt8}
    (there : data[position]? = some old) (differs : byte ≠ old) :
    checksum (data.set position byte) ≠ checksum data := by
  intro same
  have sums := sum_map_set data position old byte there
  have equal := congrArg UInt8.toNat same
  rw [checksum_toNat, checksum_toNat] at equal
  have oldSmall := old.toNat_lt
  have newSmall := byte.toNat_lt
  exact differs (UInt8.toNat_inj.mp (by omega))

/-- Whatever the new byte does to the escapes, a packet that ends where the old one
does has the new data between its delimiters, and that has another sum. -/
theorem verifyPacket_set_eq_none (bytes data : Bytes) (accepted : verifyPacket bytes = some data)
    (offset position : Nat) (begins : payloadOffset bytes = some offset) (byte : UInt8)
    (inside : position < data.length) (differs : data[position]? ≠ some byte) :
    verifyPacket (bytes.set (offset + position) byte) = none := by
  obtain ⟨skipped, first, second, grammar⟩ := (verifyPacket_iff bytes data).mp accepted
  obtain ⟨rfl, before, _, decoded⟩ := (grammar_iff ..).mp grammar
  have start : offset = skipped.length + 1 := by
    rw [payloadOffset, findUnescapedChar, findUnescapedFrom_clear before,
      findUnescapedFrom_found (by decide)] at begins
    simpa using begins.symm
  have changed : (skipped ++ chr '$' :: (data ++ [chr '#', first, second])).set
      (offset + position) byte =
        skipped ++ chr '$' :: (data.set position byte ++ [chr '#', first, second]) := by
    rw [start, List.set_append_right _ _ (by omega),
      show skipped.length + 1 + position - skipped.length = position + 1 by omega,
      List.set_cons_succ, List.set_append_left _ _ inside]
  rw [changed]
  by_contra again
  obtain ⟨payload, again⟩ := Option.ne_none_iff_exists'.mp again
  obtain ⟨other, third, fourth, grammarThere⟩ := (verifyPacket_iff _ payload).mp again
  obtain ⟨same, beforeThere, _, decodedThere⟩ := (grammar_iff ..).mp grammarThere
  obtain ⟨_, tails⟩ := before.append_inj (by decide) beforeThere same
  obtain ⟨payloads, ends⟩ := List.append_inj' (List.cons.inj tails).2 rfl
  simp only [List.cons.injEq, and_true, true_and] at ends
  obtain ⟨rfl, rfl⟩ := ends
  have sums : checksum payload = checksum data := Option.some.inj (decodedThere.symm.trans decoded)
  have there : data[position]? = some (data[position]) := List.getElem?_eq_getElem inside
  have changes : byte ≠ data[position] := fun equal => differs (there.trans (congrArg some equal.symm))
  have unchanged : checksum (data.set position byte) = checksum data := by rw [payloads, sums]
  exact checksum_set_ne there changes unchanged

/-- An escaped delimiter that loses its escape. -/
theorem unescaped_delimiter_rejected :
    verifyPacket (ascii "+$a\x7d#b#63") = some (ascii "a\x7d#b") ∧
      verifyPacket ((ascii "+$a\x7d#b#63").set (2 + 1) (chr 'x')) = none :=
  ⟨by decide, verifyPacket_set_eq_none (ascii "+$a\x7d#b#63") (ascii "a\x7d#b") (by decide) 2 1
    (by decide) (chr 'x') (by decide) (by decide)⟩

end Util

end Gdbserver
