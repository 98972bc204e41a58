import Gdbserver.Foundation.Ftl
import Gdbserver.Ipt.Config
import Gdbserver.Logic.OptionTable

/-!
# The options of the trace collector

`ParseConfigOption` of `bin/ipt/main.cc`. The values of `--config` are lists of options,
and each option sets one part of the configuration. `Written` is the grammar of the
options. The parser accepts exactly what the grammar has, and what the control register
says of an accepted configuration is compared with what was written.
-/

set_option autoImplicit false

namespace Gdbserver.Ipt

open Logic

/-- `StringToNumberWithError` in base 10 at the two unsigned types the parser uses. -/
structure IptFtl extends Ftl where
  decimalToUInt64 : Bytes → Option UInt64
  decimalToUInt32 : Bytes → Option UInt32

def IptFtl.standard : IptFtl where
  toFtl := Ftl.standard
  decimalToUInt64 string := (Ftl.readUnsigned .k10 (2 ^ 64) string).map UInt64.ofNat
  decimalToUInt32 string := (Ftl.readUnsigned .k10 (2 ^ 32) string).map UInt32.ofNat

inductive Flag where
  | branch
  | cyc
  | mtc
  | os
  | retc
  | tsc
  | user
  deriving DecidableEq, Repr

/-- The options that `ParseFreqValue` reads. -/
inductive Freq where
  | cycThresh
  | mtcFreq
  | psbFreq
  deriving DecidableEq, Repr

def Flag.name : Flag → Bytes
  | .branch => ascii "branch"
  | .cyc => ascii "cyc"
  | .mtc => ascii "mtc"
  | .os => ascii "os"
  | .retc => ascii "retc"
  | .tsc => ascii "tsc"
  | .user => ascii "user"

def Freq.name : Freq → Bytes
  | .cycThresh => ascii "cyc-thresh"
  | .mtcFreq => ascii "mtc-freq"
  | .psbFreq => ascii "psb-freq"

def addrName (index : Fin 2) : Bytes := if index = addr0 then ascii "addr0" else ascii "addr1"

def AddrFilter.name : AddrFilter → Bytes
  | .off => ascii "off"
  | .enable => ascii "enable"
  | .stop => ascii "stop"

def onOff (value : Bool) : Bytes := if value then ascii "on" else ascii "off"

/-- What one option assigns. A range without `elf` keeps the one that was there. -/
inductive Setting where
  | addr (index : Fin 2) (filter : AddrFilter)
  | addrRange (index : Fin 2) (elf : Option Bytes) (beginAddr endAddr : UInt64)
  | flag (flag : Flag) (value : Bool)
  | cr3Match (value : UInt64)
  | freq (freq : Freq) (value : UInt32)
  deriving DecidableEq, Repr

namespace IptConfig

def setFlag (config : IptConfig) (value : Bool) : Flag → IptConfig
  | .branch => { config with branch := value }
  | .cyc => { config with cyc := value }
  | .mtc => { config with mtc := value }
  | .os => { config with os := value }
  | .retc => { config with retc := value }
  | .tsc => { config with tsc := value }
  | .user => { config with user := value }

def setFreq (config : IptConfig) (value : UInt32) : Freq → IptConfig
  | .cycThresh => { config with cycThresh := value }
  | .mtcFreq => { config with mtcFreq := value }
  | .psbFreq => { config with psbFreq := value }

def set (config : IptConfig) : Setting → IptConfig
  | .addr index filter => { config with addr := Function.update config.addr index filter }
  | .addrRange index elf beginAddr endAddr =>
      let range : AddrRange := ⟨elf.getD (config.addrRange index).elf, beginAddr, endAddr⟩
      { config with addrRange := Function.update config.addrRange index range }
  | .flag flag value => config.setFlag value flag
  | .cr3Match value => { config with cr3Match := value, cr3MatchSet := true }
  | .freq freq value => config.setFreq value freq

end IptConfig

/-! ## The parser -/

def invalidValue (name arg : Bytes) : Bytes :=
  ascii "Invalid value for " ++ name ++ ascii ": " ++ arg

def reservedBits (name arg : Bytes) : Bytes :=
  ascii "Invalid value (reserved bits set) for " ++ name ++ ascii ": " ++ arg

def parseFlag (name arg : Bytes) : Except Bytes Bool :=
  if arg = ascii "on" then .ok true
  else if arg = ascii "off" then .ok false
  else .error (invalidValue name arg)

def parseNumber (ftl : IptFtl) (name arg : Bytes) : Except Bytes UInt64 :=
  let number :=
    if arg.length > 2 ∧ arg[0]? = some (chr '0') ∧
        (arg[1]? = some (chr 'x') ∨ arg[1]? = some (chr 'X')) then
      ftl.stringToUInt64 (arg.drop 2)
    else
      ftl.decimalToUInt64 arg
  match number with
  | some value => .ok value
  | none => .error (invalidValue name arg)

/-- The lower 5 bits of the register are reserved. -/
def cr3MatchReservedMask : UInt64 := 0x1f

def parseCr3Match (ftl : IptFtl) (name arg : Bytes) : Except Bytes UInt64 :=
  if arg = ascii "off" then .ok 0
  else do
    let value ← parseNumber ftl name arg
    if value &&& cr3MatchReservedMask ≠ 0 then .error (reservedBits name arg) else .ok value

def parseAddrConfig (name arg : Bytes) : Except Bytes AddrFilter :=
  if arg = ascii "off" then .ok .off
  else if arg = ascii "enable" then .ok .enable
  else if arg = ascii "stop" then .ok .stop
  else .error (invalidValue name arg)

def parseAddrRange (ftl : IptFtl) (name arg : Bytes) (index : Fin 2) : Except Bytes Setting :=
  match ftl.splitString (chr ',') .trimWhitespace .splitWantNonEmpty arg with
  | [first, second] => do
      let beginAddr ← parseNumber ftl name first
      let endAddr ← parseNumber ftl name second
      return .addrRange index none beginAddr endAddr
  | [elf, first, second] => do
      let beginAddr ← parseNumber ftl name first
      let endAddr ← parseNumber ftl name second
      return .addrRange index (some elf) beginAddr endAddr
  | _ => .error (invalidValue name arg)

def parseFreqValue (ftl : IptFtl) (name arg : Bytes) : Except Bytes UInt32 :=
  match ftl.decimalToUInt32 arg with
  | some value => .ok value
  | none => .error (invalidValue name arg)

/-- The branches of the loop in `ParseConfigOption`. -/
inductive ConfigOption where
  | addr (index : Fin 2)
  | addrRange (index : Fin 2)
  | flagName (flag : Flag)
  | flagValue (flag : Flag)
  | cr3Match
  | freq (freq : Freq)
  deriving DecidableEq, Repr

namespace ConfigOption

/-- The condition of the branch; `BeginsWith` is the pattern `starts`. -/
def pattern : ConfigOption → Pattern UInt8
  | .addr index => .starts (addrName index ++ ascii "=")
  | .addrRange index => .starts (addrName index ++ ascii "-range=")
  | .flagName flag => .exactly flag.name
  | .flagValue flag => .starts (flag.name ++ ascii "=")
  | .cr3Match => .starts (ascii "cr3-match=")
  | .freq value => .starts (value.name ++ ascii "=")

/-- The body of the branch. -/
def parse (ftl : IptFtl) (arg : Bytes) : ConfigOption → Except Bytes Setting
  | .addr index => (parseAddrConfig (addrName index) arg).map (.addr index)
  | .addrRange index => parseAddrRange ftl (addrName index ++ ascii "-range") arg index
  | .flagName flag => .ok (.flag flag true)
  | .flagValue flag => (parseFlag flag.name arg).map (.flag flag)
  | .cr3Match => (parseCr3Match ftl (ascii "cr3-match") arg).map .cr3Match
  | .freq value => (parseFreqValue ftl value.name arg).map (.freq value)

/-- The branches in their order. -/
def all : List ConfigOption :=
  [.addr addr0, .addrRange addr0, .addr addr1, .addrRange addr1, .flagName .branch,
    .flagValue .branch, .cr3Match, .flagName .cyc, .flagValue .cyc, .freq .cycThresh,
    .flagName .mtc, .flagValue .mtc, .freq .mtcFreq, .flagName .os, .flagValue .os, .freq .psbFreq,
    .flagName .retc, .flagValue .retc, .flagName .tsc, .flagValue .tsc, .flagName .user,
    .flagValue .user]

theorem mem_all (option : ConfigOption) : option ∈ all := by
  cases option with
  | addr index =>
      revert index
      decide
  | addrRange index =>
      revert index
      decide
  | flagName flag => cases flag <;> decide
  | flagValue flag => cases flag <;> decide
  | cr3Match => decide
  | freq value => cases value <;> decide

theorem all_apart : all.Pairwise fun option other => option.pattern.Apart other.pattern := by
  decide +kernel

end ConfigOption

/-- One turn of the loop. -/
def parseOption (ftl : IptFtl) (o : Bytes) : Except Bytes Setting :=
  match Pattern.lookup ConfigOption.pattern ConfigOption.all o with
  | some (option, arg) => option.parse ftl arg
  | none => .error (invalidValue (ascii "--config") o)

def splitOptions (ftl : IptFtl) (optionsString : Bytes) : List Bytes :=
  ftl.splitString (chr ';') .trimWhitespace .splitWantNonEmpty optionsString

def parseConfigOption (ftl : IptFtl) (config : IptConfig) (optionsString : Bytes) :
    Except Bytes IptConfig :=
  applyAll (parseOption ftl) IptConfig.set config (splitOptions ftl optionsString)

/-- The loop of `GetIptConfig` over the values of `--config`. -/
def parseConfigOptions (ftl : IptFtl) (config : IptConfig) (values : List Bytes) :
    Except Bytes IptConfig :=
  values.foldlM (parseConfigOption ftl) config

/-! ## The grammar -/

/-- A number begins with `0x` if it is in hex. -/
inductive Numeral (ftl : IptFtl) : Bytes → UInt64 → Prop where
  | hex {x : UInt8} {digits : Bytes} {value : UInt64} (letter : x = chr 'x' ∨ x = chr 'X')
      (some : digits ≠ []) (read : ftl.stringToUInt64 digits = .some value) :
      Numeral ftl (chr '0' :: x :: digits) value
  | decimal {text : Bytes} {value : UInt64}
      (plain : ∀ x digits, (x = chr 'x' ∨ x = chr 'X') → digits ≠ [] →
        text ≠ chr '0' :: x :: digits)
      (read : ftl.decimalToUInt64 text = some value) : Numeral ftl text value

/-- The option texts, as the help of the program describes them. -/
inductive Written (ftl : IptFtl) : Setting → Bytes → Prop where
  | addr (index : Fin 2) (filter : AddrFilter) :
      Written ftl (.addr index filter) (addrName index ++ ascii "=" ++ filter.name)
  | addrRange (index : Fin 2) {elf : Option Bytes} {text first second : Bytes}
      {beginAddr endAddr : UInt64}
      (cut : ftl.splitString (chr ',') .trimWhitespace .splitWantNonEmpty text =
        elf.toList ++ [first, second])
      (begins : Numeral ftl first beginAddr) (ends : Numeral ftl second endAddr) :
      Written ftl (.addrRange index elf beginAddr endAddr)
        (addrName index ++ ascii "-range=" ++ text)
  | flagName (flag : Flag) : Written ftl (.flag flag true) flag.name
  | flagValue (flag : Flag) (value : Bool) :
      Written ftl (.flag flag value) (flag.name ++ ascii "=" ++ onOff value)
  | cr3Off : Written ftl (.cr3Match 0) (ascii "cr3-match=off")
  | cr3Value {text : Bytes} {value : UInt64} (number : text ≠ ascii "off")
      (read : Numeral ftl text value) (free : value &&& cr3MatchReservedMask = 0) :
      Written ftl (.cr3Match value) (ascii "cr3-match=" ++ text)
  | freq (freq : Freq) {text : Bytes} {value : UInt32}
      (read : ftl.decimalToUInt32 text = some value) :
      Written ftl (.freq freq value) (freq.name ++ ascii "=" ++ text)

variable {ftl : IptFtl} {name arg o : Bytes} {setting : Setting} {settings : List Setting}

theorem parseFlag_ok_iff {value : Bool} : parseFlag name arg = .ok value ↔ arg = onOff value := by
  constructor
  · intro accepted
    rw [parseFlag] at accepted
    split at accepted
    · cases accepted
      assumption
    · split at accepted
      · cases accepted
        assumption
      · cases accepted
  · rintro rfl
    cases value <;> rfl

theorem parseAddrConfig_ok_iff {filter : AddrFilter} :
    parseAddrConfig name arg = .ok filter ↔ arg = filter.name := by
  constructor
  · intro accepted
    rw [parseAddrConfig] at accepted
    split at accepted
    · cases accepted
      assumption
    · split at accepted
      · cases accepted
        assumption
      · split at accepted
        · cases accepted
          assumption
        · cases accepted
  · rintro rfl
    cases filter <;> rfl

theorem parseFreqValue_ok_iff {value : UInt32} :
    parseFreqValue ftl name arg = .ok value ↔ ftl.decimalToUInt32 arg = some value := by
  rw [parseFreqValue]
  cases ftl.decimalToUInt32 arg <;> simp

theorem hex_iff (arg : Bytes) :
    (arg.length > 2 ∧ arg[0]? = some (chr '0') ∧
        (arg[1]? = some (chr 'x') ∨ arg[1]? = some (chr 'X'))) ↔
      ∃ x digits, (x = chr 'x' ∨ x = chr 'X') ∧ digits ≠ [] ∧ arg = chr '0' :: x :: digits := by
  constructor
  · rintro ⟨long, zero, letter⟩
    match arg with
    | first :: second :: third :: rest =>
        obtain rfl : first = chr '0' := by simpa using zero
        exact ⟨second, third :: rest, by simpa using letter, List.cons_ne_nil _ _, rfl⟩
  · rintro ⟨x, digits, letter, some, rfl⟩
    have positive := List.length_pos_iff.mpr some
    refine ⟨?_, rfl, ?_⟩
    · simp only [List.length_cons]
      omega
    · simpa using letter

theorem parseNumber_ok_iff {value : UInt64} :
    parseNumber ftl name arg = .ok value ↔ Numeral ftl arg value := by
  have answer (number : Option UInt64) :
      (match number with
        | some value => Except.ok value
        | none => .error (invalidValue name arg)) = Except.ok value ↔ number = some value := by
    cases number <;> simp
  rw [parseNumber, answer]
  split
  · rename_i hex
    obtain ⟨x, digits, letter, some, rfl⟩ := (hex_iff arg).mp hex
    constructor
    · intro read
      exact .hex letter some read
    · intro numeral
      cases numeral with
      | hex _ _ read => exact read
      | decimal plain _ => exact absurd rfl (plain x digits letter some)
  · rename_i notHex
    constructor
    · intro read
      apply Numeral.decimal _ read
      intro x digits letter some same
      exact notHex ((hex_iff arg).mpr ⟨x, digits, letter, some, same⟩)
    · intro numeral
      cases numeral with
      | hex letter some _ => exact absurd ((hex_iff _).mpr ⟨_, _, letter, some, rfl⟩) notHex
      | decimal _ read => exact read

theorem parseCr3Match_ok_iff {value : UInt64} :
    parseCr3Match ftl name arg = .ok value ↔
      (arg = ascii "off" ∧ value = 0) ∨
        (arg ≠ ascii "off" ∧ Numeral ftl arg value ∧ value &&& cr3MatchReservedMask = 0) := by
  rw [parseCr3Match]
  split
  · rename_i off
    simp [off, eq_comm]
  · rename_i number
    rw [bind_ok_iff]
    constructor
    · rintro ⟨read, parsed, free⟩
      split at free
      · cases free
      · rename_i clear
        cases free
        exact .inr ⟨number, parseNumber_ok_iff.mp parsed, Decidable.not_not.mp clear⟩
    · rintro (⟨off, -⟩ | ⟨-, numeral, free⟩)
      · exact absurd off number
      · exact ⟨value, parseNumber_ok_iff.mpr numeral, if_neg (Decidable.not_not.mpr free)⟩

/-- The two numbers of a range are read in their order. -/
theorem parseRange_ok_iff {index : Fin 2} {elf : Option Bytes} {first second : Bytes} :
    (do
      let beginAddr ← parseNumber ftl name first
      let endAddr ← parseNumber ftl name second
      return Setting.addrRange index elf beginAddr endAddr) = .ok setting ↔
      ∃ beginAddr endAddr, Numeral ftl first beginAddr ∧ Numeral ftl second endAddr ∧
        setting = .addrRange index elf beginAddr endAddr := by
  simp only [bind_ok_iff, parseNumber_ok_iff]
  constructor
  · rintro ⟨beginAddr, begins, endAddr, ends, same⟩
    exact ⟨beginAddr, endAddr, begins, ends, (Except.ok.inj same).symm⟩
  · rintro ⟨beginAddr, endAddr, begins, ends, rfl⟩
    exact ⟨beginAddr, begins, endAddr, ends, rfl⟩

theorem parseAddrRange_ok_iff {index : Fin 2} :
    parseAddrRange ftl name arg index = .ok setting ↔
      ∃ elf first second, ftl.splitString (chr ',') .trimWhitespace .splitWantNonEmpty arg =
          Option.toList elf ++ [first, second] ∧
        ∃ beginAddr endAddr, Numeral ftl first beginAddr ∧ Numeral ftl second endAddr ∧
          setting = .addrRange index elf beginAddr endAddr := by
  rw [parseAddrRange]
  constructor
  · intro parsed
    split at parsed
    · rename_i first second cut
      exact ⟨none, first, second, cut, parseRange_ok_iff.mp parsed⟩
    · rename_i elf first second cut
      exact ⟨some elf, first, second, cut, parseRange_ok_iff.mp parsed⟩
    · cases parsed
  · rintro ⟨elf, first, second, cut, numbers⟩
    rw [cut]
    cases elf with
    | none => exact parseRange_ok_iff.mpr numbers
    | some elf => exact parseRange_ok_iff.mpr numbers

/-- An option that a branch reads is one of the grammar. -/
theorem ConfigOption.written {option : ConfigOption} (fits : option.pattern.argument o = some arg)
    (parsed : option.parse ftl arg = .ok setting) : Written ftl setting o := by
  cases option with
  | addr index =>
      obtain rfl := Pattern.argument_starts_iff.mp fits
      obtain ⟨filter, read, rfl⟩ := map_ok_iff.mp parsed
      rw [parseAddrConfig_ok_iff.mp read]
      exact .addr index filter
  | addrRange index =>
      obtain rfl := Pattern.argument_starts_iff.mp fits
      obtain ⟨elf, first, second, cut, _, _, begins, ends, rfl⟩ := parseAddrRange_ok_iff.mp parsed
      exact .addrRange index cut begins ends
  | flagName flag =>
      obtain ⟨rfl, -⟩ := Pattern.argument_exactly_iff.mp fits
      cases parsed
      exact .flagName flag
  | flagValue flag =>
      obtain rfl := Pattern.argument_starts_iff.mp fits
      obtain ⟨value, read, rfl⟩ := map_ok_iff.mp parsed
      rw [parseFlag_ok_iff.mp read]
      exact .flagValue flag value
  | cr3Match =>
      obtain rfl := Pattern.argument_starts_iff.mp fits
      obtain ⟨value, read, rfl⟩ := map_ok_iff.mp parsed
      rcases parseCr3Match_ok_iff.mp read with ⟨rfl, rfl⟩ | ⟨number, numeral, free⟩
      · exact .cr3Off
      · exact .cr3Value number numeral free
  | freq which =>
      obtain rfl := Pattern.argument_starts_iff.mp fits
      obtain ⟨value, read, rfl⟩ := map_ok_iff.mp parsed
      exact .freq which (parseFreqValue_ok_iff.mp read)

/-- Every option of the grammar is read by the branch for it. -/
theorem Written.parsed (written : Written ftl setting o) :
    ∃ option : ConfigOption, ∃ arg, option.pattern.argument o = some arg ∧
      option.parse ftl arg = .ok setting := by
  cases written with
  | addr index filter =>
      exact ⟨.addr index, filter.name, Pattern.argument_starts_iff.mpr rfl,
        map_ok_iff.mpr ⟨filter, parseAddrConfig_ok_iff.mpr rfl, rfl⟩⟩
  | @addrRange index elf text first second beginAddr endAddr cut begins ends =>
      exact ⟨.addrRange index, text, Pattern.argument_starts_iff.mpr rfl,
        parseAddrRange_ok_iff.mpr ⟨elf, first, second, cut, beginAddr, endAddr, begins, ends, rfl⟩⟩
  | flagName flag => exact ⟨.flagName flag, [], Pattern.argument_exactly_iff.mpr ⟨rfl, rfl⟩, rfl⟩
  | flagValue flag value =>
      exact ⟨.flagValue flag, onOff value, Pattern.argument_starts_iff.mpr rfl,
        map_ok_iff.mpr ⟨value, parseFlag_ok_iff.mpr rfl, rfl⟩⟩
  | cr3Off => exact ⟨.cr3Match, ascii "off", Pattern.argument_starts_iff.mpr rfl, rfl⟩
  | @cr3Value text value number numeral free =>
      exact ⟨.cr3Match, text, Pattern.argument_starts_iff.mpr rfl,
        map_ok_iff.mpr ⟨value, parseCr3Match_ok_iff.mpr (.inr ⟨number, numeral, free⟩), rfl⟩⟩
  | @freq which text value read =>
      exact ⟨.freq which, text, Pattern.argument_starts_iff.mpr rfl,
        map_ok_iff.mpr ⟨value, parseFreqValue_ok_iff.mpr read, rfl⟩⟩

theorem parseOption_ok_iff : parseOption ftl o = .ok setting ↔ Written ftl setting o := by
  constructor
  · intro accepted
    rw [parseOption] at accepted
    split at accepted
    · rename_i option arg found
      obtain ⟨-, fits⟩ := (Pattern.lookup_eq_some_iff ConfigOption.all_apart).mp found
      exact ConfigOption.written fits accepted
    · cases accepted
  · intro written
    obtain ⟨option, arg, fits, parsed⟩ := written.parsed
    -- no branch before this one fits, since no text fits two of them
    have found := (Pattern.lookup_eq_some_iff ConfigOption.all_apart).mpr ⟨option.mem_all, fits⟩
    rw [parseOption, found]
    exact parsed

/-- No text can be read in two ways. -/
theorem Written.unique {other : Setting} (written : Written ftl setting o)
    (otherwise : Written ftl other o) : setting = other := by
  have read := parseOption_ok_iff.mpr written
  rw [parseOption_ok_iff.mpr otherwise] at read
  exact (Except.ok.inj read).symm

theorem written_unique {others : List Setting} {texts : List Bytes}
    (written : List.Forall₂ (Written ftl) settings texts)
    (otherwise : List.Forall₂ (Written ftl) others texts) : settings = others := by
  induction written generalizing others with
  | nil =>
      cases otherwise
      rfl
  | cons first _ ih =>
      cases otherwise with
      | cons otherFirst later => rw [first.unique otherFirst, ih later]

theorem parseConfigOptions_eq (ftl : IptFtl) (config : IptConfig) (values : List Bytes) :
    parseConfigOptions ftl config values =
      applyAll (parseOption ftl) IptConfig.set config (values.flatMap (splitOptions ftl)) := by
  induction values generalizing config with
  | nil => rfl
  | cons value values ih =>
      rw [List.flatMap_cons, applyAll_append, parseConfigOptions, List.foldlM_cons]
      congr 1
      funext config
      exact ih config

/-- What is accepted is a list of settings, made one after the other. -/
theorem parseConfigOptions_ok_iff {config final : IptConfig} {values : List Bytes} :
    parseConfigOptions ftl config values = .ok final ↔
      ∃ settings, List.Forall₂ (Written ftl) settings (values.flatMap (splitOptions ftl)) ∧
        final = settings.foldl IptConfig.set config := by
  rw [parseConfigOptions_eq, applyAll_ok_iff]
  simp only [parseOption_ok_iff]

/-! ## What was specified -/

/-- The default is `branch;os;user;retc;tsc`. -/
def Flag.initial : Flag → Bool
  | .branch | .os | .user | .retc | .tsc => true
  | .cyc | .mtc => false

namespace Setting

def flag? (flag : Flag) : Setting → Option Bool
  | .flag other value => if other = flag then some value else none
  | _ => none

def freq? (freq : Freq) : Setting → Option UInt32
  | .freq other value => if other = freq then some value else none
  | _ => none

def addr? (index : Fin 2) : Setting → Option AddrFilter
  | .addr other filter => if other = index then some filter else none
  | _ => none

def cr3Match? : Setting → Option UInt64
  | .cr3Match value => some value
  | _ => none

end Setting

def specifiedFlag (settings : List Setting) (flag : Flag) : Bool :=
  lastOf (Setting.flag? flag) flag.initial settings

def specifiedFreq (settings : List Setting) (freq : Freq) : UInt32 :=
  lastOf (Setting.freq? freq) 0 settings

def specifiedAddr (settings : List Setting) (index : Fin 2) : AddrFilter :=
  lastOf (Setting.addr? index) .off settings

def specifiedCr3Match (settings : List Setting) : UInt64 := lastOf Setting.cr3Match? 0 settings

/-- Where the register has what was specified. -/
def specifiedFields (settings : List Setting) : List BitField :=
  let flag := specifiedFlag settings
  let freq := specifiedFreq settings
  [⟨1, 1, (flag .cyc).toNat⟩, ⟨2, 1, (flag .os).toNat⟩, ⟨3, 1, (flag .user).toNat⟩,
    ⟨7, 1, (specifiedCr3Match settings != 0).toNat⟩, ⟨9, 1, (flag .mtc).toNat⟩,
    ⟨10, 1, (flag .tsc).toNat⟩, ⟨11, 1, (!flag .retc).toNat⟩, ⟨13, 1, (flag .branch).toNat⟩,
    ⟨14, 4, (freq .mtcFreq).toNat⟩, ⟨19, 4, (freq .cycThresh).toNat⟩,
    ⟨24, 4, (freq .psbFreq).toNat⟩, ⟨32, 4, (specifiedAddr settings addr0).toUInt64.toNat⟩,
    ⟨36, 4, (specifiedAddr settings addr1).toUInt64.toNat⟩]

/-- The register gives back what was specified, and has no other bits. -/
structure Encodes (register : UInt64) (settings : List Setting) : Prop where
  fields : ∀ field ∈ specifiedFields settings,
    BitField.extract field.offset field.width register.toNat = field.value
  others : ∀ bit, (∀ field ∈ specifiedFields settings, ¬ field.Covers bit) →
    register.toNat.testBit bit = false

namespace IptConfig

def flag (config : IptConfig) : Flag → Bool
  | .branch => config.branch
  | .cyc => config.cyc
  | .mtc => config.mtc
  | .os => config.os
  | .retc => config.retc
  | .tsc => config.tsc
  | .user => config.user

def freq (config : IptConfig) : Freq → UInt32
  | .cycThresh => config.cycThresh
  | .mtcFreq => config.mtcFreq
  | .psbFreq => config.psbFreq

theorem flag_set (which : Flag) (config : IptConfig) (setting : Setting) :
    (config.set setting).flag which = (setting.flag? which).getD (config.flag which) := by
  cases setting with
  | flag other value => cases other <;> cases which <;> rfl
  | freq other value => cases other <;> cases which <;> rfl
  | addr | addrRange | cr3Match => cases which <;> rfl

theorem freq_set (which : Freq) (config : IptConfig) (setting : Setting) :
    (config.set setting).freq which = (setting.freq? which).getD (config.freq which) := by
  cases setting with
  | flag other value => cases other <;> cases which <;> rfl
  | freq other value => cases other <;> cases which <;> rfl
  | addr | addrRange | cr3Match => cases which <;> rfl

theorem addr_set (index : Fin 2) (config : IptConfig) (setting : Setting) :
    (config.set setting).addr index = (setting.addr? index).getD (config.addr index) := by
  cases setting with
  | flag other value => cases other <;> rfl
  | freq other value => cases other <;> rfl
  | addr other filter =>
      by_cases same : other = index
      · subst same
        simp [set, Setting.addr?]
      · simp [set, Setting.addr?, same, Function.update_of_ne (Ne.symm same)]
  | addrRange | cr3Match => rfl

theorem cr3Match_set (config : IptConfig) (setting : Setting) :
    (config.set setting).cr3Match = setting.cr3Match?.getD config.cr3Match := by
  cases setting with
  | flag other value => cases other <;> rfl
  | freq other value => cases other <;> rfl
  | addr | addrRange | cr3Match => rfl

end IptConfig

section Collected

variable (settings : List Setting) (numCpus : UInt32) (memory : Fin 2 → UInt64 × UInt64)

theorem flag_foldl (which : Flag) :
    (settings.foldl IptConfig.set (IptConfig.new numCpus memory)).flag which =
      specifiedFlag settings which := by
  have initial : (IptConfig.new numCpus memory).flag which = which.initial := by
    cases which <;> rfl
  rw [specifiedFlag, ← initial]
  exact foldl_eq_lastOf (IptConfig.flag · which) (IptConfig.flag_set which) settings _

theorem freq_foldl (which : Freq) :
    (settings.foldl IptConfig.set (IptConfig.new numCpus memory)).freq which =
      specifiedFreq settings which := by
  have initial : (IptConfig.new numCpus memory).freq which = 0 := by
    cases which <;> rfl
  rw [specifiedFreq, ← initial]
  exact foldl_eq_lastOf (IptConfig.freq · which) (IptConfig.freq_set which) settings _

theorem addr_foldl (index : Fin 2) :
    (settings.foldl IptConfig.set (IptConfig.new numCpus memory)).addr index =
      specifiedAddr settings index :=
  foldl_eq_lastOf (IptConfig.addr · index) (IptConfig.addr_set index) settings _

theorem cr3Match_foldl :
    (settings.foldl IptConfig.set (IptConfig.new numCpus memory)).cr3Match =
      specifiedCr3Match settings :=
  foldl_eq_lastOf IptConfig.cr3Match IptConfig.cr3Match_set settings _

/-- The fields of the register are set to the last values that were written. -/
theorem registerFields_foldl :
    (settings.foldl IptConfig.set (IptConfig.new numCpus memory)).registerFields =
      specifiedFields settings := by
  have flag := flag_foldl settings numCpus memory
  have freq := freq_foldl settings numCpus memory
  have addr := addr_foldl settings numCpus memory
  simp only [specifiedFields, ← flag, ← freq, ← addr, ← cr3Match_foldl settings numCpus memory]
  rfl

end Collected

/-- Flags and address filters always fit. -/
theorem fits_iff (settings : List Setting) :
    (∀ field ∈ specifiedFields settings, field.value < 2 ^ field.width) ↔
      ∀ freq, specifiedFreq settings freq < 16 := by
  have bit (value : Bool) : value.toNat < 2 ^ 1 := value.toNat_lt
  have filter (value : AddrFilter) : value.toUInt64.toNat < 2 ^ 4 := by cases value <;> decide
  have freq (which : Freq) : (specifiedFreq settings which).toNat < 2 ^ 4 ↔
      specifiedFreq settings which < 16 := by
    rw [UInt32.lt_iff_toNat_lt]
    rfl
  constructor
  · intro fits which
    apply (freq which).mp
    cases which with
    | mtcFreq => exact fits ⟨14, 4, _⟩ (by simp [specifiedFields])
    | cycThresh => exact fits ⟨19, 4, _⟩ (by simp [specifiedFields])
    | psbFreq => exact fits ⟨24, 4, _⟩ (by simp [specifiedFields])
  · intro small
    have fits (which : Freq) := (freq which).mpr (small which)
    -- every other field is a flag or a filter
    simp only [specifiedFields, List.forall_mem_cons, bit, filter, fits, true_and]
    simp

/-- The register has what was specified exactly when no frequency is cut. -/
theorem encodes_iff (settings : List Setting) (numCpus : UInt32)
    (memory : Fin 2 → UInt64 × UInt64) :
    Encodes (settings.foldl IptConfig.set (IptConfig.new numCpus memory)).ctlMsr settings ↔
      ∀ freq, specifiedFreq settings freq < 16 := by
  have packed : (settings.foldl IptConfig.set (IptConfig.new numCpus memory)).ctlMsr.toNat =
      BitField.packed (specifiedFields settings) := by
    rw [IptConfig.toNat_ctlMsr, registerFields_foldl]
  have apart : (specifiedFields settings).Pairwise BitField.Apart := by
    rw [← registerFields_foldl settings numCpus memory]
    exact IptConfig.registerFields_apart _
  rw [← fits_iff]
  constructor
  · intro encodes field member
    have back := encodes.fields field member
    rw [packed] at back
    exact (BitField.extract_packed_eq_iff apart member).mp back
  · intro fits
    constructor
    · intro field member
      rw [packed]
      exact (BitField.extract_packed_eq_iff apart member).mpr (fits field member)
    · intro bit outside
      rw [packed]
      exact BitField.testBit_packed_outside outside

/-- The option gives a frequency above the documented 0...15. -/
def OutOfRange (ftl : IptFtl) (option : Bytes) : Prop :=
  ∃ freq : Freq, ∃ digits value, option = freq.name ++ ascii "=" ++ digits ∧
    ftl.decimalToUInt32 digits = some value ∧ 16 ≤ value

theorem written_lt {texts : List Bytes} (written : List.Forall₂ (Written ftl) settings texts)
    (inRange : ∀ text ∈ texts, ¬ OutOfRange ftl text) (freq : Freq) (value : UInt32)
    (given : Setting.freq freq value ∈ settings) : value < 16 := by
  induction written with
  | nil => cases given
  | cons first later ih =>
      obtain ⟨firstRange, laterRange⟩ := List.forall_mem_cons.mp inRange
      cases given with
      | head =>
          cases first with
          | freq _ read =>
              by_contra large
              exact firstRange ⟨freq, _, value, rfl, read, UInt32.not_lt.mp large⟩
      | tail _ member => exact ih laterRange member

/-- A frequency that counts was given by some option, or is the default. -/
theorem specifiedFreq_lt {texts : List Bytes} (written : List.Forall₂ (Written ftl) settings texts)
    (inRange : ∀ text ∈ texts, ¬ OutOfRange ftl text) (freq : Freq) :
    specifiedFreq settings freq < 16 := by
  rcases lastOf_mem (Setting.freq? freq) 0 settings with initial | ⟨setting, member, seen⟩
  · rw [specifiedFreq, initial]
    decide
  · cases setting with
    | freq other value =>
        obtain ⟨rfl, given⟩ := Option.ite_none_right_eq_some.mp seen
        rw [specifiedFreq, ← Option.some.inj given]
        exact written_lt written inRange other value member
    | flag | addr | addrRange | cr3Match => cases seen

/-- For all values of `--config` that the parser accepts there is one way to read them. The
register says the same exactly when the frequencies that count are below 16, and a frequency
that does not fit is also rejected exactly when none is given. -/
theorem ctlMsr_encodes_iff (ftl : IptFtl) (numCpus : UInt32) (memory : Fin 2 → UInt64 × UInt64)
    (values : List Bytes) (config : IptConfig)
    (accepted : parseConfigOptions ftl (IptConfig.new numCpus memory) values = .ok config) :
    ∃ settings, List.Forall₂ (Written ftl) settings (values.flatMap (splitOptions ftl)) ∧
      (∀ others, List.Forall₂ (Written ftl) others (values.flatMap (splitOptions ftl)) →
        others = settings) ∧
      (Encodes config.ctlMsr settings ↔ ∀ freq, specifiedFreq settings freq < 16) ∧
      ((Encodes config.ctlMsr settings ∧
          ∀ option ∈ values.flatMap (splitOptions ftl), OutOfRange ftl option →
            ∃ message, parseOption ftl option = .error message) ↔
        ∀ option ∈ values.flatMap (splitOptions ftl), ¬ OutOfRange ftl option) := by
  obtain ⟨settings, written, rfl⟩ := parseConfigOptions_ok_iff.mp accepted
  have encodes := encodes_iff settings numCpus memory
  refine ⟨settings, written, ?_, encodes, ?_, ?_⟩
  · intro others otherwise
    exact written_unique otherwise written
  · rintro ⟨-, rejected⟩ option member ⟨freq, digits, value, rfl, read, large⟩
    obtain ⟨message, refused⟩ := rejected _ member ⟨freq, digits, value, rfl, read, large⟩
    rw [parseOption_ok_iff.mpr (.freq freq read)] at refused
    cases refused
  · intro inRange
    refine ⟨encodes.mpr (specifiedFreq_lt written inRange), ?_⟩
    intro option member outOfRange
    exact absurd outOfRange (inRange option member)

/-- Two values of `--config`; the second takes back a part of the first. -/
def sampleValues : List Bytes := [ascii "cyc-thresh=3; mtc", ascii "addr1=stop;mtc=off"]

def sampleDefault : IptConfig := IptConfig.new 4 fun _ => (0, 0)

def sampleConfig : IptConfig :=
  { sampleDefault with cycThresh := 3, addr := Function.update sampleDefault.addr addr1 .stop }

def sampleSettings : List Setting :=
  [.freq .cycThresh 3, .flag .mtc true, .addr addr1 .stop, .flag .mtc false]

theorem sampleValues_accepted :
    parseConfigOptions IptFtl.standard sampleDefault sampleValues = .ok sampleConfig := by
  rfl

theorem sampleSettings_written :
    List.Forall₂ (Written IptFtl.standard) sampleSettings
      (sampleValues.flatMap (splitOptions IptFtl.standard)) := by
  have cut : sampleValues.flatMap (splitOptions IptFtl.standard) =
      [ascii "cyc-thresh=3", ascii "mtc", ascii "addr1=stop", ascii "mtc=off"] := by decide
  have read : IptFtl.standard.decimalToUInt32 (ascii "3") = some 3 := by decide
  rw [cut]
  exact .cons (.freq .cycThresh read) (.cons (.flagName .mtc) (.cons (.addr addr1 .stop)
    (.cons (.flagValue .mtc false) .nil)))

theorem sampleConfig_encodes : Encodes sampleConfig.ctlMsr sampleSettings := by
  obtain ⟨settings, -, unique, encodes, -⟩ := ctlMsr_encodes_iff IptFtl.standard 4
    (fun _ => (0, 0)) sampleValues sampleConfig sampleValues_accepted
  rw [unique _ sampleSettings_written, encodes, ← unique _ sampleSettings_written]
  intro freq
  cases freq <;> decide

/-- A threshold of 16 is accepted, and the register has 0 in its place. -/
theorem threshold_lost :
    parseConfigOptions IptFtl.standard sampleDefault [ascii "cyc-thresh=16"] =
        .ok { sampleDefault with cycThresh := 16 } ∧
      List.Forall₂ (Written IptFtl.standard) [.freq .cycThresh 16]
        ([ascii "cyc-thresh=16"].flatMap (splitOptions IptFtl.standard)) ∧
      ¬ Encodes { sampleDefault with cycThresh := 16 }.ctlMsr [.freq .cycThresh 16] := by
  have cut : [ascii "cyc-thresh=16"].flatMap (splitOptions IptFtl.standard) =
      [ascii "cyc-thresh=16"] := by decide
  refine ⟨rfl, ?_, ?_⟩
  · have read : IptFtl.standard.decimalToUInt32 (ascii "16") = some 16 := by decide
    rw [cut]
    exact .cons (.freq .cycThresh read) .nil
  · intro encodes
    have back := encodes.fields ⟨19, 4, 16⟩ (by decide)
    exact absurd back (by decide)

end Gdbserver.Ipt
