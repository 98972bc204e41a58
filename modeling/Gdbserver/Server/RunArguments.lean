import Gdbserver.Foundation.Hex
import Gdbserver.Server.CommandHandler

/-!
# The arguments of `vRun`

A client sends the arguments in hexadecimal with semicolons between them.
-/

set_option autoImplicit false

namespace Gdbserver

open Logic

namespace CommandHandler

theorem encoded_clear (argv : List Bytes) :
    ∀ field ∈ argv.map Util.encodeByteArrayString, chr ';' ∉ field := by
  intro field member separator
  obtain ⟨argument, -, rfl⟩ := List.mem_map.mp member
  have digit := Util.isHexDigit_encodeByteArrayString argument _ separator
  revert digit
  decide

theorem decoded_encoded (argv : List Bytes) :
    (argv.map Util.encodeByteArrayString).map Util.decodeByteArrayString = argv := by
  rw [List.map_map]
  exact (List.map_congr_left fun argument _ => Util.decodeByteArrayString_encode argument).trans
    (List.map_id argv)

/-- The arguments arrive unless the last one is empty. -/
theorem buildArgvForVRun_encoded {argv : List Bytes}
    (ended : ∀ some : argv ≠ [], argv.getLast some ≠ []) :
    buildArgvForVRun (Util.joinStrings (chr ';') (argv.map Util.encodeByteArrayString)) = argv := by
  have cut : Delimited.Cut (chr ';') (Util.joinStrings (chr ';') (argv.map Util.encodeByteArrayString))
      (argv.map Util.encodeByteArrayString) := by
    rw [Util.joinStrings_eq]
    apply Delimited.cut_intercalate (encoded_clear argv)
    intro some last
    rw [List.getLast_map] at last
    have length := congrArg List.length last
    rw [Util.encodeByteArrayString_length, List.length_nil] at length
    exact ended (by simpa using some) (List.length_eq_zero_iff.mp (by omega))
  rw [buildArgvForVRun, Util.semicolonItems_of_cut cut, decoded_encoded]

/-- An empty last argument is dropped: the semicolon before it ends the packet. -/
theorem buildArgvForVRun_encoded_concat_nil (argv : List Bytes) :
    buildArgvForVRun (Util.joinStrings (chr ';')
      ((argv ++ [[]]).map Util.encodeByteArrayString)) = argv := by
  have cut : Delimited.Cut (chr ';')
      (Util.joinStrings (chr ';') ((argv ++ [[]]).map Util.encodeByteArrayString))
      (argv.map Util.encodeByteArrayString) := by
    rw [Util.joinStrings_eq, List.map_append]
    cases argv with
    | nil => exact .empty
    | cons program arguments =>
        exact Delimited.cut_intercalate_concat_nil (encoded_clear _) (List.cons_ne_nil _ _)
  rw [buildArgvForVRun, Util.semicolonItems_of_cut cut, decoded_encoded]

/-- What the client sent is what the program is given, exactly when the last
argument is not empty. -/
theorem buildArgvForVRun_encoded_iff (program : Bytes) (arguments : List Bytes) :
    buildArgvForVRun (Util.joinStrings (chr ';')
        ((program :: arguments).map Util.encodeByteArrayString)) = program :: arguments ↔
      (program :: arguments).getLast (List.cons_ne_nil program arguments) ≠ [] := by
  constructor
  · intro arrived last
    have split := List.dropLast_append_getLast (List.cons_ne_nil program arguments)
    rw [last] at split
    rw [← split, buildArgvForVRun_encoded_concat_nil] at arrived
    have length := congrArg List.length arrived
    rw [List.length_append, List.length_singleton] at length
    omega
  · intro ended
    exact buildArgvForVRun_encoded fun _ => ended

/-- Of the arguments `a` and the empty string only the first arrives. -/
theorem empty_argument_dropped :
    Util.joinStrings (chr ';') ([ascii "a", []].map Util.encodeByteArrayString) = ascii "61;" ∧
      buildArgvForVRun (ascii "61;") = [ascii "a"] := by
  decide

end CommandHandler

end Gdbserver
