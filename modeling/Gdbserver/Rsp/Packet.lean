import Gdbserver.Foundation.Ftl
import Gdbserver.Logic.Delimited

/-!
# Packet syntax of the remote serial protocol

Framing, checksums, parameters and thread ids, as in `bin/debugserver/util.cc`.
-/

set_option autoImplicit false

namespace Gdbserver

open Logic

namespace Util

def kEscapeChar : UInt8 := chr '}'

inductive ErrorCode where
  | perm
  | noent
  | inval
  deriving DecidableEq

def ErrorCode.value : ErrorCode → UInt32
  | .perm => 1
  | .noent => 2
  | .inval => 22

def buildErrorPacket (ftl : Ftl) (code : ErrorCode) : Bytes :=
  let errstr := ftl.uintToDecimal code.value
  chr 'E' :: (if errstr.length = 1 then chr '0' :: errstr else errstr)

/-- The loop of `FindUnescapedChar`, from position `index` on. -/
def findUnescapedFrom (val : UInt8) : Bool → Nat → Bytes → Option Nat
  | _, _, [] => none
  | inEscape, index, byte :: rest =>
      if inEscape then findUnescapedFrom val false (index + 1) rest
      else if byte = kEscapeChar then findUnescapedFrom val true (index + 1) rest
      else if byte = val then some index
      else findUnescapedFrom val false (index + 1) rest

def findUnescapedChar (val : UInt8) (packet : Bytes) : Option Nat :=
  findUnescapedFrom val false 0 packet

/-- The byte sum, in `uint8_t`. -/
def checksum (data : Bytes) : UInt8 := data.foldl (· + ·) 0

/-- The payload of an accepted packet, `none` when verification fails. -/
def verifyPacket (bytes : Bytes) : Option Bytes :=
  if bytes = [] then none
  else match findUnescapedChar (chr '$') bytes with
  | none => none
  | some dollarSign =>
      let packet := bytes.drop dollarSign
      if packet.length < 4 then none
      else match findUnescapedChar (chr '#') packet with
        | none => none
        | some pound =>
            let packetData := (packet.drop 1).take (pound - 1)
            if packet.length - packetData.length ≠ 4 then none
            else match packet.drop (pound + 1) with
              | first :: second :: _ =>
                  match decodeByteString first second with
                  | none => none
                  | some received =>
                      if checksum packetData = received then some packetData else none
              | _ => none

/-- What precedes the first colon, and what follows it. -/
def extractParameters (packet : Bytes) : Bytes × Bytes :=
  (packet.takeWhile (· ≠ chr ':'), (packet.dropWhile (· ≠ chr ':')).drop 1)

def startsWith (string start : Bytes) : Bool := string.take start.length = start

/-- The result of `ParseThreadId`: `has_pid`, and the two outputs. `pid` is not
written when there is no pid. -/
structure ThreadId where
  hasPid : Bool
  pid : Int64
  tid : Int64
  deriving DecidableEq

/-- The search for the dot never looks at position 0. When there is none the
source reads `dot` without having set it; `garbage` is what it then finds. -/
def parseThreadId (ftl : Ftl) (garbage : UInt64) (bytes : Bytes) : Option ThreadId :=
  match bytes with
  | [] => none
  | first :: rest =>
      if first ≠ chr 'p' then (ftl.stringToInt64 bytes).map fun tid => ⟨false, 0, tid⟩
      else if chr '.' ∈ rest then
        match ftl.stringToInt64 (rest.takeWhile (· ≠ chr '.')),
            ftl.stringToInt64 ((rest.dropWhile (· ≠ chr '.')).drop 1) with
        | some pid, some tid => some ⟨true, pid, tid⟩
        | _, _ => none
      else (ftl.stringToInt64 (rest.take (garbage - 1).toNat)).map fun pid => ⟨true, pid, -1⟩

def encodeThreadId (ftl : Ftl) (pid tid : UInt64) : Bytes :=
  chr 'p' :: ftl.uint64ToHex pid ++ chr '.' :: ftl.uint64ToHex tid

theorem encodeThreadId_length (ftl : Ftl) (pid tid : UInt64) :
    (encodeThreadId ftl pid tid).length ≤ 34 := by
  have process := ftl.uint64ToHex_length pid
  have thread := ftl.uint64ToHex_length tid
  simp only [encodeThreadId, List.length_append, List.length_cons]
  omega

/-- How the `while (s < len)` loops cut a string: an item ends at a semicolon
or at the end, and a trailing semicolon does not start another item. Every pass
consumes a byte, so the length of the string bounds the passes. -/
def semicolonItems (string : Bytes) : List Bytes :=
  Delimited.cut (chr ';') string.length string

theorem semicolonItems_cut (string : Bytes) :
    Delimited.Cut (chr ';') string (semicolonItems string) := by
  exact Delimited.cut_cut (Nat.le_refl _)

theorem semicolonItems_of_cut {string : Bytes} {items : List Bytes}
    (is : Delimited.Cut (chr ';') string items) : semicolonItems string = items := by
  exact is.eq_cut (Nat.le_refl _)

end Util

end Gdbserver
