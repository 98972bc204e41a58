import Gdbserver.Foundation.Ftl

/-!
# Scanning with a format

`sscanf` for the directives that are used: sets that exclude one character,
words, unsigned numbers, literal characters and white space. How a number is
read is up to the library; numbers that have been printed are read back.
-/

set_option autoImplicit false

namespace Gdbserver

namespace Scanf

inductive Directive where
  /-- `%[^c]` -/
  | excluding (char : UInt8)
  /-- `%s` -/
  | word
  /-- `%u`, `%lu` and `%lx` -/
  | number (base : Base)
  | literal (char : UInt8)
  | space
  deriving DecidableEq

inductive Stored where
  | text (bytes : Bytes)
  | number (value : UInt64)
  deriving DecidableEq, Repr

/-- The character ends a number that has been printed. -/
def endsNumber (base : Base) (char : UInt8) : Bool :=
  (Ftl.digitValue base char).isNone && char != chr 'x' && char != chr 'X'

def digits (base : Base) (value : UInt64) : Bytes :=
  Ftl.writeDigits (Ftl.Base.radix base) 20 value.toNat

/-- The conversion of a number: its value and the text behind it. -/
structure NumberScanner where
  scan : Base → Bytes → Option (UInt64 × Bytes)
  shrinks : ∀ base text value rest, scan base text = some (value, rest) →
    rest.length ≤ text.length
  reads : ∀ base value rest, (∀ char, rest.head? = some char → endsNumber base char = true) →
    scan base (digits base value ++ rest) = some (value, rest)

def skipSpace (text : Bytes) : Bytes := text.dropWhile isSpace

def storeRun (keep : UInt8 → Bool) (text : Bytes) : Option (List Stored × Bytes) :=
  if text.takeWhile keep = [] then none
  else some ([.text (text.takeWhile keep)], text.dropWhile keep)

/-- One directive: what it stores and the text behind it, unless it fails. -/
def convert (numbers : NumberScanner) (text : Bytes) : Directive → Option (List Stored × Bytes)
  | .excluding char => storeRun (· != char) text
  | .word => storeRun (fun char => !isSpace char) (skipSpace text)
  | .number base =>
      (numbers.scan base (skipSpace text)).map fun read => ([.number read.1], read.2)
  | .literal char => if text.head? = some char then some ([], text.tail) else none
  | .space => some ([], skipSpace text)

/-- The items that are stored before a directive fails or the format ends. Their
number is the result of `sscanf`. -/
def scan (numbers : NumberScanner) : List Directive → Bytes → List Stored
  | [], _ => []
  | directive :: format, text =>
      match convert numbers text directive with
      | none => []
      | some (items, rest) => items ++ scan numbers format rest

/-- The directive that a character outside conversions is. -/
def Directive.ofChar (char : UInt8) : Directive := if isSpace char then .space else .literal char

/-- The directives of a part of a format without conversions. -/
def plain (part : String) : List Directive := (ascii part).map Directive.ofChar

def texts : List Stored → List Bytes
  | [] => []
  | .text bytes :: items => bytes :: texts items
  | .number _ :: items => texts items

theorem texts_append (items later : List Stored) :
    texts (items ++ later) = texts items ++ texts later := by
  induction items with
  | nil => rfl
  | cons item items ih => cases item <;> simp [texts, ih]

/-! ## What a format stores -/

section Formats

variable (numbers : NumberScanner) (text : Bytes)

/-- The text behind what the directives match, unless one of them fails. -/
def behind : List Directive → Bytes → Option Bytes
  | [], text => some text
  | directive :: format, text =>
      (convert numbers text directive).bind fun converted => behind format converted.2

theorem scan_append (format more : List Directive) :
    scan numbers (format ++ more) text =
      scan numbers format text ++ ((behind numbers format text).map (scan numbers more)).getD [] := by
  induction format generalizing text with
  | nil => rfl
  | cons directive format ih =>
      rw [List.cons_append, scan, scan, behind]
      cases convert numbers text directive with
      | none => rfl
      | some converted => simp [ih converted.2]

def Directive.storesText : Directive → Bool
  | .excluding _ | .word => true
  | .number _ | .literal _ | .space => false

theorem texts_scan_quiet {format : List Directive}
    (quiet : ∀ directive ∈ format, directive.storesText = false) :
    texts (scan numbers format text) = [] := by
  induction format generalizing text with
  | nil => rfl
  | cons directive format ih =>
      obtain ⟨first, later⟩ := List.forall_mem_cons.mp quiet
      rw [scan]
      cases converted : convert numbers text directive with
      | none => rfl
      | some result =>
          have none : texts result.1 = [] := by
            cases directive with
            | excluding | word => cases first
            | number base =>
                obtain ⟨read, -, rfl⟩ := Option.map_eq_some_iff.mp converted
                rfl
            | literal char =>
                obtain ⟨-, same⟩ := Option.ite_none_right_eq_some.mp converted
                cases same
                rfl
            | space =>
                cases converted
                rfl
          rw [texts_append, none, ih result.2 later]
          rfl

theorem texts_scan_append_quiet (format : List Directive) {more : List Directive}
    (quiet : ∀ directive ∈ more, directive.storesText = false) :
    texts (scan numbers (format ++ more) text) = texts (scan numbers format text) := by
  rw [scan_append, texts_append]
  cases behind numbers format text with
  | none => exact List.append_nil _
  | some rest =>
      rw [Option.map_some, Option.getD_some, texts_scan_quiet numbers rest quiet, List.append_nil]

/-- The word behind what the directives match. -/
def wordBehind (format : List Directive) : Bytes :=
  match behind numbers format text with
  | none => []
  | some rest => (skipSpace rest).takeWhile fun char => !isSpace char

/-- The strings are all of that kind, and so is the run of characters, if there is one. -/
theorem forall_storeRun_iff {kind : Bytes → Prop} (empty : kind []) (keep : UInt8 → Bool) :
    (∀ stored ∈ texts (((storeRun keep text).map Prod.fst).getD []), kind stored) ↔
      kind (text.takeWhile keep) := by
  by_cases none : text.takeWhile keep = []
  · simp [storeRun, none, texts, empty]
  · simp [storeRun, none, texts]

theorem scan_single (directive : Directive) :
    scan numbers [directive] text = ((convert numbers text directive).map Prod.fst).getD [] := by
  rw [scan]
  cases convert numbers text directive with
  | none => rfl
  | some converted => exact List.append_nil _

theorem forall_scan_word_iff {kind : Bytes → Prop} (empty : kind []) (format : List Directive) :
    (∀ stored ∈ texts (scan numbers (format ++ [.word]) text), kind stored) ↔
      (∀ stored ∈ texts (scan numbers format text), kind stored) ∧
        kind (wordBehind numbers text format) := by
  rw [scan_append, texts_append, List.forall_mem_append, wordBehind]
  cases behind numbers format text with
  | none => simp [texts, empty]
  | some rest =>
      rw [Option.map_some, Option.getD_some, scan_single, convert, forall_storeRun_iff _ empty]

end Formats

/-! ## What is stored fits into the text -/

section Lengths

variable {numbers : NumberScanner} {text rest : Bytes} {items : List Stored}

theorem skipSpace_length (text : Bytes) : (skipSpace text).length ≤ text.length :=
  (List.dropWhile_suffix isSpace).length_le

/-- The text behind is no longer, and neither are the strings stored. -/
def Shrinks (text : Bytes) (items : List Stored) (rest : Bytes) : Prop :=
  rest.length ≤ text.length ∧ ∀ stored ∈ texts items, stored.length ≤ text.length

theorem Shrinks.mono {longer : Bytes} (shrinks : Shrinks text items rest)
    (fits : text.length ≤ longer.length) : Shrinks longer items rest :=
  ⟨Nat.le_trans shrinks.1 fits, fun stored member => Nat.le_trans (shrinks.2 stored member) fits⟩

theorem storeRun_shrinks {keep : UInt8 → Bool}
    (converted : storeRun keep text = some (items, rest)) : Shrinks text items rest := by
  by_cases empty : text.takeWhile keep = []
  · simp [storeRun, empty] at converted
  · simp only [storeRun, if_neg empty, Option.some.injEq, Prod.mk.injEq] at converted
    obtain ⟨rfl, rfl⟩ := converted
    constructor
    · exact (List.dropWhile_suffix keep).length_le
    · intro stored member
      rw [List.mem_singleton.mp member]
      exact (List.takeWhile_prefix keep).length_le

theorem convert_shrinks {directive : Directive}
    (converted : convert numbers text directive = some (items, rest)) :
    Shrinks text items rest := by
  cases directive with
  | excluding char => exact storeRun_shrinks converted
  | word => exact (storeRun_shrinks converted).mono (skipSpace_length text)
  | number base =>
      obtain ⟨⟨value, behind⟩, read, same⟩ := Option.map_eq_some_iff.mp converted
      simp only [Prod.mk.injEq] at same
      obtain ⟨rfl, rfl⟩ := same
      constructor
      · exact Nat.le_trans (numbers.shrinks base _ value behind read) (skipSpace_length text)
      · intro stored member
        cases member
  | literal char =>
      by_cases first : text.head? = some char
      · simp only [convert, if_pos first, Option.some.injEq, Prod.mk.injEq] at converted
        obtain ⟨rfl, rfl⟩ := converted
        constructor
        · simp
        · intro stored member
          cases member
      · simp [convert, first] at converted
  | space =>
      simp only [convert, Option.some.injEq, Prod.mk.injEq] at converted
      obtain ⟨rfl, rfl⟩ := converted
      constructor
      · exact skipSpace_length text
      · intro stored member
        cases member

theorem texts_scan_length (numbers : NumberScanner) (format : List Directive) (text : Bytes) :
    ∀ stored ∈ texts (scan numbers format text), stored.length ≤ text.length := by
  induction format generalizing text with
  | nil =>
      intro stored member
      cases member
  | cons directive format ih =>
      intro stored member
      cases converted : convert numbers text directive with
      | none => simp [scan, converted, texts] at member
      | some result =>
          obtain ⟨items, rest⟩ := result
          have shrinks := convert_shrinks converted
          simp only [scan, converted, texts_append, List.mem_append] at member
          cases member with
          | inl here => exact shrinks.2 stored here
          | inr later => exact Nat.le_trans (ih rest stored later) shrinks.1

end Lengths

/-! ## Printed texts are read back -/

section ReadBack

variable {numbers : NumberScanner} {format : List Directive} {text run rest : Bytes}

theorem scan_of_convert {directive : Directive} {items : List Stored}
    (converted : convert numbers text directive = some (items, rest)) :
    scan numbers (directive :: format) text = items ++ scan numbers format rest := by
  simp [scan, converted]

theorem scan_of_fails {directive : Directive} (fails : convert numbers text directive = none) :
    scan numbers (directive :: format) text = [] := by
  simp [scan, fails]

def StartsVisibly (text : Bytes) : Prop := ∀ char, text.head? = some char → isSpace char = false

theorem startsVisibly_append (nonempty : run ≠ []) (clear : ∀ char ∈ run, isSpace char = false)
    (rest : Bytes) : StartsVisibly (run ++ rest) := by
  intro char first
  cases run with
  | nil => exact absurd rfl nonempty
  | cons other later =>
      simp only [List.cons_append, List.head?_cons, Option.some.injEq] at first
      exact clear char (first ▸ List.mem_cons_self)

theorem StartsVisibly.skipSpace (visible : StartsVisibly text) : skipSpace text = text := by
  cases text with
  | nil => rfl
  | cons char text => exact List.dropWhile_cons_of_neg (by simp [visible char rfl])

/-- The run ends where the text does or at a character that is not in the set. -/
structure EndsRun (keep : UInt8 → Bool) (run rest : Bytes) : Prop where
  kept : ∀ char ∈ run, keep char = true
  ends : ∀ char, rest.head? = some char → keep char = false

theorem EndsRun.takeWhile {keep : UInt8 → Bool} (stops : EndsRun keep run rest) :
    (run ++ rest).takeWhile keep = run := by
  rw [List.takeWhile_append_of_pos stops.kept]
  cases rest with
  | nil => simp
  | cons char rest =>
      rw [List.takeWhile_cons_of_neg (by simp [stops.ends char rfl]), List.append_nil]

theorem EndsRun.dropWhile {keep : UInt8 → Bool} (stops : EndsRun keep run rest) :
    (run ++ rest).dropWhile keep = rest := by
  rw [List.dropWhile_append_of_pos stops.kept]
  cases rest with
  | nil => rfl
  | cons char rest => exact List.dropWhile_cons_of_neg (by simp [stops.ends char rfl])

theorem EndsRun.storeRun {keep : UInt8 → Bool} (stops : EndsRun keep run rest)
    (nonempty : run ≠ []) : storeRun keep (run ++ rest) = some ([.text run], rest) := by
  simp [Scanf.storeRun, stops.takeWhile, stops.dropWhile, nonempty]

theorem isSpace_of_digit {char : UInt8} (digit : (Util.hexCharToByte char).isSome = true) :
    isSpace char = false := by
  cases space : isSpace char with
  | false => rfl
  | true =>
      have member : char ∈ [9, 10, 11, 12, 13, chr ' '] := by simpa [isSpace] using space
      have spaces : ([9, 10, 11, 12, 13, chr ' '].all
          fun char : UInt8 => (Util.hexCharToByte char).isNone) = true := by decide
      have none := List.all_eq_true.mp spaces char member
      rw [Option.isNone_iff_eq_none.mp none] at digit
      cases digit

theorem digits_isSome (base : Base) (value : UInt64) :
    ∀ digit ∈ digits base value, (Util.hexCharToByte digit).isSome = true := by
  cases base with
  | k10 => exact Ftl.writeDigits_digits (by decide) (by decide) 20 value.toNat
  | k16 => exact Ftl.writeDigits_digits (by decide) (by decide) 20 value.toNat

theorem digits_length (base : Base) (value : UInt64) : (digits base value).length ≤ 20 :=
  Ftl.writeDigits_length _ 20 value.toNat

theorem digits_ne_nil (base : Base) (value : UInt64) : digits base value ≠ [] := by
  have written (radix width value : Nat) : Ftl.writeDigits radix (width + 1) value ≠ [] := by
    rw [Ftl.writeDigits]
    split <;> simp
  exact written _ 19 _

theorem startsVisibly_digits (base : Base) (value : UInt64) (rest : Bytes) :
    StartsVisibly (digits base value ++ rest) := by
  apply startsVisibly_append (digits_ne_nil base value)
  intro digit member
  exact isSpace_of_digit (digits_isSome base value digit member)

theorem scan_number (base : Base) (value : UInt64)
    (ends : ∀ char, rest.head? = some char → endsNumber base char = true) :
    scan numbers (.number base :: format) (digits base value ++ rest) =
      .number value :: scan numbers format rest := by
  have converted : convert numbers (digits base value ++ rest) (.number base) =
      some ([.number value], rest) := by
    rw [convert, (startsVisibly_digits base value rest).skipSpace, numbers.reads base value rest ends]
    rfl
  exact scan_of_convert converted

theorem endsRun_of_clear {char : UInt8} (clear : char ∉ run)
    (ends : ∀ other, rest.head? = some other → other = char) : EndsRun (· != char) run rest := by
  constructor
  · intro other member
    simp only [bne_iff_ne, ne_eq]
    rintro rfl
    exact clear member
  · intro other first
    simpa using ends other first

theorem scan_excluding {char : UInt8} (nonempty : run ≠ []) (clear : char ∉ run) :
    scan numbers (.excluding char :: format) (run ++ char :: rest) =
      .text run :: scan numbers format (char :: rest) := by
  have stops : EndsRun (· != char) run (char :: rest) := by
    apply endsRun_of_clear clear
    intro other first
    exact (Option.some.inj first).symm
  have converted : convert numbers (run ++ char :: rest) (.excluding char) =
      some ([.text run], char :: rest) := stops.storeRun nonempty
  exact scan_of_convert converted

structure IsWord (run : Bytes) : Prop where
  nonempty : run ≠ []
  clear : ∀ char ∈ run, isSpace char = false

theorem scan_word (word : IsWord run)
    (ends : ∀ char, rest.head? = some char → isSpace char = true) :
    scan numbers (.word :: format) (run ++ rest) = .text run :: scan numbers format rest := by
  have skipped := (startsVisibly_append word.nonempty word.clear rest).skipSpace
  have stops : EndsRun (fun char => !isSpace char) run rest := by
    constructor
    · intro char member
      simp [word.clear char member]
    · intro char first
      simp [ends char first]
  have converted : convert numbers (run ++ rest) .word = some ([.text run], rest) := by
    rw [convert, skipped, stops.storeRun word.nonempty]
  exact scan_of_convert converted

theorem scan_literal (char : UInt8) :
    scan numbers (.literal char :: format) (char :: rest) = scan numbers format rest := by
  have converted : convert numbers (char :: rest) (.literal char) = some ([], rest) := by
    simp [convert]
  exact scan_of_convert converted

theorem scan_literal_of_ne {char other : UInt8} (different : other ≠ char) :
    scan numbers (.literal char :: format) (other :: rest) = [] := by
  apply scan_of_fails
  simp [convert, different]

theorem scan_space {char : UInt8} (space : isSpace char = true)
    (visible : StartsVisibly rest) :
    scan numbers (.space :: format) (char :: rest) = scan numbers format rest := by
  have skipped : skipSpace (char :: rest) = skipSpace rest := List.dropWhile_cons_of_pos space
  have converted : convert numbers (char :: rest) .space = some ([], rest) := by
    rw [convert, skipped, visible.skipSpace]
  exact scan_of_convert converted

/-- After white space comes something else. -/
def Spaced (char other : UInt8) : Prop := isSpace char = true → isSpace other = false

instance : DecidableRel Spaced := fun _ _ => inferInstanceAs (Decidable (_ → _))

/-- What stands outside the conversions is read where it has been printed. -/
theorem scan_ofChar (part : Bytes) (chain : part.IsChain Spaced)
    (behind : ∀ char other, part.getLast? = some char → rest.head? = some other →
      Spaced char other) :
    scan numbers (part.map Directive.ofChar ++ format) (part ++ rest) =
      scan numbers format rest := by
  induction part with
  | nil => rfl
  | cons char part ih =>
      -- the directive takes the one character, a space since no other one follows
      have later : scan numbers (part.map Directive.ofChar ++ format) (part ++ rest) =
          scan numbers format rest := by
        apply ih chain.of_cons
        intro last other final
        apply behind last other
        rw [List.getLast?_cons, final]
        rfl
      rw [List.map_cons, List.cons_append, List.cons_append]
      cases space : isSpace char with
      | false =>
          have directive : Directive.ofChar char = .literal char := by simp [Directive.ofChar, space]
          rw [directive, scan_literal, later]
      | true =>
          have directive : Directive.ofChar char = .space := by simp [Directive.ofChar, space]
          rw [directive, scan_space space, later]
          intro other first
          cases part with
          | nil => exact behind char other rfl first space
          | cons next part =>
              simp only [List.cons_append, List.head?_cons, Option.some.injEq] at first
              exact first ▸ (List.isChain_cons_cons.mp chain).1 space

theorem scan_plain (part : String) (chain : (ascii part).IsChain Spaced)
    (visible : StartsVisibly rest) :
    scan numbers (plain part ++ format) (ascii part ++ rest) = scan numbers format rest := by
  apply scan_ofChar (ascii part) chain
  intro char other _ first _
  exact visible other first

end ReadBack

/-! ## A scanner -/

theorem digitValue_of_readDigits {base : Base} {text : Bytes} {before value : Nat}
    (read : Ftl.readDigits base before text = some value) :
    ∀ char ∈ text, (Ftl.digitValue base char).isSome = true := by
  induction text generalizing before with
  | nil =>
      intro char member
      cases member
  | cons digit text ih =>
      rw [Ftl.readDigits] at read
      cases here : Ftl.digitValue base digit with
      | none => simp [here] at read
      | some next =>
          simp only [here] at read
          intro char member
          cases List.mem_cons.mp member with
          | inl same => simp [same, here]
          | inr later => exact ih read char later

/-- Digits are taken as long as there are any, and a number that does not fit
is the greatest one. -/
def simpleScan (base : Base) (text : Bytes) : Option (UInt64 × Bytes) :=
  let digit := fun char : UInt8 => (Ftl.digitValue base char).isSome
  if text.takeWhile digit = [] then none
  else (Ftl.readDigits base 0 (text.takeWhile digit)).map fun value =>
    ((min value (2 ^ 64 - 1)).toUInt64, text.dropWhile digit)

theorem simpleScan_digits (base : Base) (value : UInt64) {rest : Bytes}
    (ends : ∀ char, rest.head? = some char → endsNumber base char = true) :
    simpleScan base (digits base value ++ rest) = some (value, rest) := by
  have small : value.toNat < Ftl.Base.radix base ^ 20 := by
    have bound := value.toNat_lt
    cases base with
    | k10 => exact Nat.lt_trans bound (by decide)
    | k16 => exact Nat.lt_trans bound (by decide)
  have read : Ftl.readDigits base 0 (digits base value) = some value.toNat :=
    Ftl.readDigits_writeDigits base small
  have stops : EndsRun (fun char => (Ftl.digitValue base char).isSome) (digits base value) rest := by
    constructor
    · exact digitValue_of_readDigits read
    · intro char first
      have ending := ends char first
      simp only [endsNumber, Bool.and_eq_true, Option.isNone_iff_eq_none] at ending
      simp [ending.1.1]
  have whole : min value.toNat (2 ^ 64 - 1) = value.toNat :=
    Nat.min_eq_left (Nat.le_pred_of_lt value.toNat_lt)
  simp only [simpleScan, stops.takeWhile, stops.dropWhile, if_neg (digits_ne_nil base value), read,
    Option.map_some, whole]
  simp

/-- Any library will do, and there is one. -/
def NumberScanner.simple : NumberScanner where
  scan := simpleScan
  shrinks := by
    intro base text value rest scanned
    by_cases empty : text.takeWhile (fun char : UInt8 => (Ftl.digitValue base char).isSome) = []
    · simp [simpleScan, empty] at scanned
    · simp only [simpleScan, if_neg empty] at scanned
      obtain ⟨number, _, same⟩ := Option.map_eq_some_iff.mp scanned
      rw [← (Prod.mk.inj same).2]
      exact (List.dropWhile_suffix _).length_le
  reads base value rest := simpleScan_digits base value

end Scanf

end Gdbserver
