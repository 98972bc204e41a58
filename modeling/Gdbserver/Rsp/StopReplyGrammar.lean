import Gdbserver.Rsp.StopReplyPacket
import Gdbserver.Rsp.ThreadIds

/-!
# What a stop reply says

The setters give a packet its contents; `Build` writes them as a letter, a
signal number and `key:value;` parameters, from which they can be read again.
-/

set_option autoImplicit false

namespace Gdbserver

open Logic Util

namespace StopReplyPacket

/-- A call of one of the setters. -/
inductive Setter where
  | signalNumber (number : UInt8)
  | threadId (process thread : UInt64)
  | registerValue (number : UInt8) (value : Bytes)
  | stopReason (reason : Bytes)

def Setter.apply (ftl : Ftl) : Setter → StopReplyPacket → StopReplyPacket
  | .signalNumber number => setSignalNumber number
  | .threadId process thread => setThreadId ftl process thread
  | .registerValue number value => addRegisterValue number value
  | .stopReason reason => setStopReason reason

/-- The types a setter may be called for, and the texts it may be given. -/
def Setter.Allowed (type : StopReplyType) : Setter → Prop
  | .signalNumber _ => True
  | .threadId _ _ => type = .receivedSignal ∨ type = .threadExited
  | .registerValue _ value => type = .receivedSignal ∧ value ≠ [] ∧ ∀ char ∈ value, IsHexDigit char
  | .stopReason reason => type = .receivedSignal ∧ chr ':' ∉ reason ∧ chr ';' ∉ reason

/-- A packet after a sequence of calls. -/
def made (ftl : Ftl) (type : StopReplyType) (setters : List Setter) : StopReplyPacket :=
  setters.foldl (fun packet setter => setter.apply ftl packet) (ofType type)

/-- What has been said about the stop; the last call of a setter counts, and
registers add up. -/
structure Contents where
  number : UInt8
  registers : List (UInt8 × Bytes)
  thread : Option (UInt64 × UInt64)
  reason : Option Bytes

namespace Contents

def blank : Contents := ⟨0, [], none, none⟩

def set (contents : Contents) : Setter → Contents
  | .signalNumber number => { contents with number := number }
  | .threadId process thread => { contents with thread := some (process, thread) }
  | .registerValue number value =>
      { contents with registers := contents.registers ++ [(number, value)] }
  | .stopReason reason => { contents with reason := some reason }

def ofSetters (setters : List Setter) : Contents := setters.foldl set blank

/-- A stop with a reason is reported as SIGTRAP. -/
def effectiveSignal (contents : Contents) : UInt8 :=
  if contents.reason.isSome then 5 else contents.number

/-- The packet that holds the contents. -/
def packet (ftl : Ftl) (type : StopReplyType) (contents : Contents) : StopReplyPacket where
  type := type
  signo := contents.number
  tidString := contents.thread.elim [] fun thread => encodeThreadId ftl thread.1 thread.2
  registerValues := contents.registers.map fun register =>
    encodeByteString register.1 ++ chr ':' :: register.2
  stopReason := contents.reason.elim [] fun reason => reason ++ [chr ':']

theorem apply_packet (ftl : Ftl) (type : StopReplyType) (contents : Contents) (setter : Setter) :
    setter.apply ftl (contents.packet ftl type) = (contents.set setter).packet ftl type := by
  cases setter with
  | signalNumber number => rfl
  | threadId process thread => rfl
  | registerValue number value =>
      simp [Setter.apply, addRegisterValue, packet, set]
  | stopReason reason => rfl

theorem foldl_packet (ftl : Ftl) (type : StopReplyType) (setters : List Setter)
    (contents : Contents) :
    setters.foldl (fun packet setter => setter.apply ftl packet) (contents.packet ftl type) =
      (setters.foldl set contents).packet ftl type := by
  induction setters generalizing contents with
  | nil => rfl
  | cons setter setters ih => rw [List.foldl_cons, List.foldl_cons, apply_packet, ih]

theorem made_eq (ftl : Ftl) (type : StopReplyType) (setters : List Setter) :
    made ftl type setters = (ofSetters setters).packet ftl type :=
  foldl_packet ftl type setters blank

/-- Contents that a packet of the type can have. -/
structure Fits (type : StopReplyType) (contents : Contents) : Prop where
  values : ∀ register ∈ contents.registers, register.2 ≠ [] ∧ ∀ char ∈ register.2, IsHexDigit char
  reasons : ∀ reason ∈ contents.reason, chr ':' ∉ reason ∧ chr ';' ∉ reason
  stops : type ≠ .receivedSignal → contents.registers = [] ∧ contents.reason = none
  threads : type ≠ .receivedSignal → type ≠ .threadExited → contents.thread = none

theorem Fits.set {type : StopReplyType} {contents : Contents} (fits : Fits type contents)
    {setter : Setter} (allowed : setter.Allowed type) : Fits type (contents.set setter) := by
  cases setter with
  | signalNumber number => exact ⟨fits.values, fits.reasons, fits.stops, fits.threads⟩
  | threadId process thread =>
      refine ⟨fits.values, fits.reasons, fits.stops, fun signal exit => ?_⟩
      exact absurd allowed (not_or.mpr ⟨signal, exit⟩)
  | registerValue number value =>
      obtain ⟨signal, text⟩ := allowed
      refine ⟨?_, fits.reasons, fun other => absurd signal other, fits.threads⟩
      intro register member
      rcases List.mem_append.mp member with earlier | last
      · exact fits.values register earlier
      · rw [List.mem_singleton] at last
        exact last ▸ text
  | stopReason reason =>
      obtain ⟨signal, text⟩ := allowed
      refine ⟨fits.values, ?_, fun other => absurd signal other, fits.threads⟩
      rintro reason ⟨⟩
      exact text

theorem fits_foldl {type : StopReplyType} {setters : List Setter}
    (allowed : ∀ setter ∈ setters, setter.Allowed type) {contents : Contents}
    (fits : Fits type contents) : Fits type (setters.foldl Contents.set contents) := by
  induction setters generalizing contents with
  | nil => exact fits
  | cons setter setters ih =>
      rw [List.forall_mem_cons] at allowed
      exact ih allowed.2 (fits.set allowed.1)

theorem fits_ofSetters {type : StopReplyType} {setters : List Setter}
    (allowed : ∀ setter ∈ setters, setter.Allowed type) : Fits type (ofSetters setters) :=
  fits_foldl allowed ⟨by simp [blank], by simp [blank], fun _ => ⟨rfl, rfl⟩, fun _ _ => rfl⟩

end Contents

/-- One `key:value` parameter of a packet. -/
inductive Parameter where
  | register (number : UInt8) (value : Bytes)
  | thread (pid tid : UInt64)
  | reason (said : Bytes)

namespace Parameter

def key : Parameter → Bytes
  | .register number _ => encodeByteString number
  | .thread _ _ => ascii "thread"
  | .reason said => said

def value (ftl : Ftl) : Parameter → Bytes
  | .register _ value => value
  | .thread pid tid => encodeThreadId ftl pid tid
  | .reason _ => []

def text (ftl : Ftl) (parameter : Parameter) : Bytes :=
  parameter.key ++ chr ':' :: parameter.value ftl

def WellFormed : Parameter → Prop
  | .register _ value => value ≠ [] ∧ ∀ char ∈ value, IsHexDigit char
  | .thread _ _ => True
  | .reason said => chr ':' ∉ said ∧ chr ';' ∉ said

theorem not_mem_encodeThreadId {ftl : Ftl} (prints : ftl.PrintsHex) {char : UInt8}
    (other : ¬ IsHexDigit char) (letter : char ≠ chr 'p') (dot : char ≠ chr '.')
    (process thread : UInt64) : char ∉ encodeThreadId ftl process thread := by
  simp only [encodeThreadId, List.cons_append, List.mem_cons, List.mem_append, not_or]
  exact ⟨letter, uint64ToHex_clear prints other process, dot, uint64ToHex_clear prints other thread⟩

theorem key_clear {parameter : Parameter} (formed : parameter.WellFormed) :
    chr ':' ∉ parameter.key := by
  cases parameter with
  | register number value =>
      exact not_mem_encodeByteString (by decide : ¬ IsHexDigit (chr ':')) number
  | thread pid tid => exact (by decide : chr ':' ∉ ascii "thread")
  | reason said => exact formed.1

/-- No byte that is neither hexadecimal nor of the fixed parts stands in a
parameter, unless it stands in the reason. -/
theorem not_mem_text {ftl : Ftl} (prints : ftl.PrintsHex) {parameter : Parameter}
    (formed : parameter.WellFormed) {char : UInt8} (other : ¬ IsHexDigit char)
    (fixed : char ∉ ascii "thread:p.") (unsaid : ∀ said, parameter = .reason said → char ∉ said) :
    char ∉ parameter.text ftl := by
  have colon : char ≠ chr ':' := fun same => fixed (same ▸ by decide)
  simp only [text, List.mem_append, List.mem_cons, not_or]
  cases parameter with
  | register number value =>
      exact ⟨not_mem_encodeByteString other number, colon, fun member => other (formed.2 char member)⟩
  | thread pid tid =>
      refine ⟨fun member => fixed (List.mem_append_left (ascii ":p.") member), colon, ?_⟩
      exact not_mem_encodeThreadId prints other (fun same => fixed (same ▸ by decide))
        (fun same => fixed (same ▸ by decide)) pid tid
  | reason said => exact ⟨unsaid said rfl, colon, List.not_mem_nil⟩

theorem text_clear {ftl : Ftl} (prints : ftl.PrintsHex) {parameter : Parameter}
    (formed : parameter.WellFormed) : chr ';' ∉ parameter.text ftl := by
  apply not_mem_text prints formed (by decide) (by decide)
  rintro said rfl
  exact formed.2

/-- A thread id begins with no hexadecimal digit. -/
theorem encodeThreadId_ne {ftl : Ftl} {process thread : UInt64} {value : Bytes}
    (digits : ∀ char ∈ value, IsHexDigit char) : value ≠ encodeThreadId ftl process thread := by
  rintro rfl
  have letter := digits (chr 'p') List.mem_cons_self
  revert letter
  decide

theorem text_injective {ftl : Ftl} (prints : ftl.PrintsHex) {parameter other : Parameter}
    (formed : parameter.WellFormed) (otherFormed : other.WellFormed)
    (same : parameter.text ftl = other.text ftl) : parameter = other := by
  obtain ⟨keys, values⟩ := Delimited.field_unique (key_clear formed) (key_clear otherFormed) same
  -- the values tell the kinds apart: hexadecimal, beginning with `p`, or empty
  cases parameter with
  | register number value =>
      cases other with
      | register =>
          obtain rfl : value = _ := values
          rw [encodeByteString_injective keys]
      | thread => exact absurd values (encodeThreadId_ne formed.2)
      | reason => exact absurd values formed.1
  | thread pid tid =>
      cases other with
      | register => exact absurd values.symm (encodeThreadId_ne otherFormed.2)
      | thread =>
          obtain ⟨rfl, rfl⟩ := encodeThreadId_injective prints values
          rfl
      | reason => exact absurd values (List.cons_ne_nil _ _)
  | reason said =>
      cases other with
      | register => exact absurd values.symm otherFormed.1
      | thread => exact absurd values.symm (List.cons_ne_nil _ _)
      | reason =>
          obtain rfl : said = _ := keys
          rfl

theorem texts_injective {ftl : Ftl} (prints : ftl.PrintsHex) {parameters others : List Parameter}
    (formed : ∀ parameter ∈ parameters, parameter.WellFormed)
    (otherFormed : ∀ parameter ∈ others, parameter.WellFormed)
    (same : parameters.map (text ftl) = others.map (text ftl)) : parameters = others := by
  induction parameters generalizing others with
  | nil => exact (List.map_eq_nil_iff.mp same.symm).symm
  | cons parameter parameters ih =>
      cases others with
      | nil => cases same
      | cons other others =>
          rw [List.forall_mem_cons] at formed otherFormed
          obtain ⟨first, later⟩ := List.cons.inj same
          rw [text_injective prints formed.1 otherFormed.1 first, ih formed.2 otherFormed.2 later]

def register? : Parameter → Option (UInt8 × Bytes)
  | .register number value => some (number, value)
  | _ => none

def thread? : Parameter → Option (UInt64 × UInt64)
  | .thread pid tid => some (pid, tid)
  | _ => none

def reason? : Parameter → Option Bytes
  | .reason said => some said
  | _ => none

end Parameter

namespace Contents

def parameters (contents : Contents) : List Parameter :=
  contents.registers.map (fun register => .register register.1 register.2) ++
    contents.thread.toList.map (fun thread => .thread thread.1 thread.2) ++
    contents.reason.toList.map .reason

theorem mem_parameters {contents : Contents} {parameter : Parameter}
    (member : parameter ∈ contents.parameters) :
    (∃ register ∈ contents.registers, parameter = .register register.1 register.2) ∨
      (∃ thread ∈ contents.thread, parameter = .thread thread.1 thread.2) ∨
      ∃ reason ∈ contents.reason, parameter = .reason reason := by
  simp only [parameters, List.mem_append, List.mem_map, Option.mem_toList] at member
  rcases member with (⟨register, here, rfl⟩ | ⟨thread, here, rfl⟩) | ⟨reason, here, rfl⟩
  · exact .inl ⟨register, here, rfl⟩
  · exact .inr (.inl ⟨thread, here, rfl⟩)
  · exact .inr (.inr ⟨reason, here, rfl⟩)

theorem Fits.wellFormed {type : StopReplyType} {contents : Contents} (fits : Fits type contents) :
    ∀ parameter ∈ contents.parameters, parameter.WellFormed := by
  intro parameter member
  rcases mem_parameters member with ⟨register, here, rfl⟩ | ⟨thread, here, rfl⟩ | ⟨reason, here, rfl⟩
  · exact fits.values register here
  · trivial
  · exact fits.reasons reason here

theorem read_parameters (contents : Contents) :
    contents.parameters.filterMap Parameter.register? = contents.registers ∧
      (contents.parameters.filterMap Parameter.thread?).head? = contents.thread ∧
      (contents.parameters.filterMap Parameter.reason?).head? = contents.reason := by
  obtain ⟨number, registers, thread, reason⟩ := contents
  cases thread <;> cases reason <;>
    simp [parameters, List.filterMap_map, Function.comp_def, Parameter.register?,
      Parameter.thread?, Parameter.reason?, List.findSome?_cons]

theorem eq_of_parameters {contents other : Contents} (same : contents.parameters = other.parameters) :
    contents.registers = other.registers ∧ contents.thread = other.thread ∧
      contents.reason = other.reason := by
  obtain ⟨registers, thread, reason⟩ := read_parameters contents
  obtain ⟨otherRegisters, otherThread, otherReason⟩ := read_parameters other
  rw [same] at registers thread reason
  exact ⟨registers.symm.trans otherRegisters, thread.symm.trans otherThread,
    reason.symm.trans otherReason⟩

def letter (type : StopReplyType) (contents : Contents) : UInt8 :=
  match type with
  | .receivedSignal => if contents.parameters.isEmpty then chr 'S' else chr 'T'
  | .processTerminatedWithSignal => chr 'X'
  | .processExited => chr 'W'
  | .threadExited => chr 'w'

def body (ftl : Ftl) (type : StopReplyType) (contents : Contents) : Bytes :=
  match type with
  | .receivedSignal =>
      Delimited.terminated (chr ';') (contents.parameters.map (Parameter.text ftl))
  | .threadExited =>
      contents.thread.elim [] fun thread => chr ';' :: encodeThreadId ftl thread.1 thread.2
  | .processTerminatedWithSignal | .processExited => []

/-- How a packet is laid out. -/
theorem Fits.build {type : StopReplyType} {contents : Contents} (fits : Fits type contents) (ftl : Ftl) :
    (contents.packet ftl type).build =
      contents.letter type :: (encodeByteString contents.effectiveSignal ++ contents.body ftl type) := by
  have stops := fits.stops
  have threads := fits.threads
  obtain ⟨number, registers, thread, reason⟩ := contents
  cases type with
  | receivedSignal =>
      have word : ascii "thread:" = ascii "thread" ++ [chr ':'] := rfl
      cases thread <;> cases reason <;> cases registers <;>
        simp [word, StopReplyPacket.build, packet, letter, body, typeChar, hasParameters, threadPart,
          effectiveSignal, parameters, Delimited.terminated, Parameter.text, Parameter.key,
          Parameter.value, encodeThreadId, List.flatMap_map]
  | threadExited =>
      obtain ⟨rfl, rfl⟩ := stops (by decide)
      cases thread <;>
        simp [StopReplyPacket.build, packet, letter, body, typeChar, threadPart, effectiveSignal,
          encodeThreadId]
  | processExited =>
      obtain ⟨rfl, rfl⟩ := stops (by decide)
      obtain rfl := threads (by decide) (by decide)
      simp [StopReplyPacket.build, packet, letter, body, typeChar, threadPart, effectiveSignal]
  | processTerminatedWithSignal =>
      obtain ⟨rfl, rfl⟩ := stops (by decide)
      obtain rfl := threads (by decide) (by decide)
      simp [StopReplyPacket.build, packet, letter, body, typeChar, threadPart, effectiveSignal]

def typeOf (letter : UInt8) : Option StopReplyType :=
  if letter = chr 'S' ∨ letter = chr 'T' then some .receivedSignal
  else if letter = chr 'X' then some .processTerminatedWithSignal
  else if letter = chr 'W' then some .processExited
  else if letter = chr 'w' then some .threadExited
  else none

theorem typeOf_letter (type : StopReplyType) (contents : Contents) :
    typeOf (contents.letter type) = some type := by
  cases type with
  | receivedSignal =>
      rw [letter]
      cases contents.parameters.isEmpty <;> decide
  | processTerminatedWithSignal => exact (by decide : typeOf (chr 'X') = some .processTerminatedWithSignal)
  | processExited => exact (by decide : typeOf (chr 'W') = some .processExited)
  | threadExited => exact (by decide : typeOf (chr 'w') = some .threadExited)

theorem letter_eq_S_iff (type : StopReplyType) (contents : Contents) :
    contents.letter type = chr 'S' ↔ type = .receivedSignal ∧ contents.parameters = [] := by
  constructor
  · intro single
    have read := typeOf_letter type contents
    rw [single] at read
    obtain rfl : .receivedSignal = type := Option.some.inj read
    refine ⟨rfl, List.isEmpty_iff.mp ?_⟩
    by_contra several
    rw [letter, if_neg several] at single
    exact absurd single (by decide)
  · rintro ⟨rfl, none⟩
    rw [letter, none]
    rfl

/-- The body of a packet says the rest. -/
theorem Fits.body_injective {ftl : Ftl} (prints : ftl.PrintsHex) {type : StopReplyType}
    {contents other : Contents} (fits : Fits type contents) (otherFits : Fits type other)
    (same : contents.body ftl type = other.body ftl type) :
    contents.registers = other.registers ∧ contents.thread = other.thread ∧
      contents.reason = other.reason := by
  by_cases signal : type = .receivedSignal
  · subst signal
    have clear : ∀ {contents : Contents}, Fits .receivedSignal contents →
        ∀ text ∈ contents.parameters.map (Parameter.text ftl), chr ';' ∉ text := by
      intro contents fits text member
      obtain ⟨parameter, among, rfl⟩ := List.mem_map.mp member
      exact Parameter.text_clear prints (fits.wellFormed parameter among)
    have texts := Delimited.terminated_injective (clear fits) (clear otherFits) same
    exact eq_of_parameters (Parameter.texts_injective prints fits.wellFormed otherFits.wellFormed texts)
  · obtain ⟨registers, reason⟩ := fits.stops signal
    obtain ⟨otherRegisters, otherReason⟩ := otherFits.stops signal
    rw [registers, reason, otherRegisters, otherReason]
    refine ⟨rfl, ?_, rfl⟩
    by_cases exit : type = .threadExited
    · subst exit
      cases here : contents.thread with
      | none =>
          cases there : other.thread with
          | none => rfl
          | some thread => simp [body, here, there] at same
      | some thread =>
          cases there : other.thread with
          | none => simp [body, here, there] at same
          | some otherThread =>
              simp only [body, here, there, Option.elim_some, List.cons.injEq, true_and] at same
              obtain ⟨process, thread⟩ := encodeThreadId_injective prints same
              exact congrArg some (Prod.ext process thread)
    · rw [fits.threads signal exit, otherFits.threads signal exit]

/-- Bytes outside the syntax of a packet can only come from its reason. -/
theorem Fits.not_mem_build {ftl : Ftl} (prints : ftl.PrintsHex) {type : StopReplyType}
    {contents : Contents} (fits : Fits type contents) {char : UInt8} (other : ¬ IsHexDigit char)
    (fixed : char ∉ ascii "STXWw;thread:p.") (unsaid : ∀ reason ∈ contents.reason, char ∉ reason) :
    char ∉ (contents.packet ftl type).build := by
  have ne : ∀ letter ∈ ascii "STXWw;thread:p.", char ≠ letter := by
    rintro letter member rfl
    exact fixed member
  have letter : char ≠ contents.letter type := by
    cases type with
    | receivedSignal =>
        rw [Contents.letter]
        split
        · exact ne _ (by decide)
        · exact ne _ (by decide)
    | processTerminatedWithSignal => exact ne (chr 'X') (by decide)
    | processExited => exact ne (chr 'W') (by decide)
    | threadExited => exact ne (chr 'w') (by decide)
  rw [fits.build, List.mem_cons, List.mem_append, not_or, not_or]
  refine ⟨letter, not_mem_encodeByteString other _, ?_⟩
  cases type with
  | receivedSignal =>
      intro member
      obtain ⟨text, among, inside⟩ := List.mem_flatMap.mp member
      obtain ⟨parameter, present, rfl⟩ := List.mem_map.mp among
      rcases List.mem_append.mp inside with here | delimiter
      · refine Parameter.not_mem_text prints (fits.wellFormed parameter present) other ?_ ?_ here
        · exact fun member => fixed (List.mem_append_right (ascii "STXWw;") member)
        · rintro reason rfl
          rcases mem_parameters present with ⟨_, _, kind⟩ | ⟨_, _, kind⟩ | ⟨said, given, kind⟩
          · cases kind
          · cases kind
          · cases kind
            exact unsaid reason given
      · exact ne (chr ';') (by decide) (List.mem_singleton.mp delimiter)
  | threadExited =>
      rw [body]
      cases contents.thread with
      | none => exact List.not_mem_nil
      | some thread =>
          rw [Option.elim_some, List.mem_cons, not_or]
          exact ⟨ne (chr ';') (by decide), Parameter.not_mem_encodeThreadId prints other
            (ne (chr 'p') (by decide)) (ne (chr '.') (by decide)) _ _⟩
  | processTerminatedWithSignal | processExited => exact List.not_mem_nil

end Contents

/-- What the client is to learn from a packet. -/
structure Report where
  type : StopReplyType
  signal : UInt8
  registers : List (UInt8 × Bytes)
  thread : Option (UInt64 × UInt64)
  reason : Option Bytes

def Contents.report (type : StopReplyType) (contents : Contents) : Report :=
  ⟨type, contents.effectiveSignal, contents.registers, contents.thread, contents.reason⟩

/-- Packets that differ in what they report differ in their bytes; `S` is for
signals without parameters; and nothing that would need escaping is written
unless the reason holds it. -/
theorem build_unambiguous {ftl : Ftl} (prints : ftl.PrintsHex) {type : StopReplyType}
    {setters : List Setter} (allowed : ∀ setter ∈ setters, setter.Allowed type) :
    (∀ (other : StopReplyType) (others : List Setter),
      (∀ setter ∈ others, setter.Allowed other) →
      (made ftl type setters).build = (made ftl other others).build →
        (Contents.ofSetters setters).report type = (Contents.ofSetters others).report other) ∧
    ((made ftl type setters).build.head? = some (chr 'S') ↔
      type = .receivedSignal ∧ (Contents.ofSetters setters).registers = [] ∧
        (Contents.ofSetters setters).thread = none ∧ (Contents.ofSetters setters).reason = none) ∧
    ∀ char ∈ [chr '#', chr '$', kEscapeChar],
      (∀ reason ∈ (Contents.ofSetters setters).reason, char ∉ reason) →
        char ∉ (made ftl type setters).build := by
  have fits := Contents.fits_ofSetters allowed
  rw [Contents.made_eq]
  refine ⟨?_, ?_, ?_⟩
  · intro other others othersAllowed same
    have otherFits := Contents.fits_ofSetters othersAllowed
    rw [Contents.made_eq, fits.build, otherFits.build] at same
    obtain ⟨letters, rest⟩ := List.cons.inj same
    obtain rfl : type = other := by
      have read := Contents.typeOf_letter type (Contents.ofSetters setters)
      rw [letters, Contents.typeOf_letter] at read
      exact (Option.some.inj read).symm
    obtain ⟨signals, bodies⟩ := List.append_inj rest rfl
    obtain ⟨registers, thread, reason⟩ := fits.body_injective prints otherFits bodies
    rw [Contents.report, Contents.report, encodeByteString_injective signals, registers,
      thread, reason]
  · rw [fits.build, List.head?_cons, Option.some.injEq, Contents.letter_eq_S_iff]
    refine and_congr_right fun _ => ?_
    simp [Contents.parameters]
  · intro char special unsaid
    have outside : ¬ IsHexDigit char ∧ char ∉ ascii "STXWw;thread:p." := by
      revert special
      simp only [List.mem_cons, List.not_mem_nil, or_false]
      rintro (rfl | rfl | rfl) <;> decide
    exact fits.not_mem_build prints outside.1 outside.2 unsaid

theorem breakpoint_reply_unambiguous :
    (made Ftl.standard .receivedSignal
      [.signalNumber 5, .registerValue 6 (ascii "00ff"), .threadId 0x4d 9]).build =
        ascii "T0506:00ff;thread:p4D.9;" ∧
    ∀ others : List Setter, (∀ setter ∈ others, setter.Allowed .receivedSignal) →
      ascii "T0506:00ff;thread:p4D.9;" = (made Ftl.standard .receivedSignal others).build →
        (Contents.ofSetters others).report .receivedSignal =
          ⟨.receivedSignal, 5, [(6, ascii "00ff")], some (0x4d, 9), none⟩ := by
  have text : (made Ftl.standard .receivedSignal
      [.signalNumber 5, .registerValue 6 (ascii "00ff"), .threadId 0x4d 9]).build =
        ascii "T0506:00ff;thread:p4D.9;" := by decide
  have allowed : ∀ setter ∈ [Setter.signalNumber 5, .registerValue 6 (ascii "00ff"), .threadId 0x4d 9],
      setter.Allowed .receivedSignal := by
    simp only [List.forall_mem_cons, List.not_mem_nil, false_implies, implies_true, and_true]
    have read : Ftl.readDigits .k16 0 (ascii "00ff") = some 255 := by decide
    exact ⟨trivial, ⟨rfl, by decide, Ftl.isHexDigit_of_readDigits read⟩, .inl rfl⟩
  refine ⟨text, fun others othersAllowed same => ?_⟩
  exact ((build_unambiguous Ftl.standard_printsHex allowed).1 .receivedSignal others othersAllowed
    (text.trans same)).symm

end StopReplyPacket

end Gdbserver
