import Gdbserver.Utils.SymbolLookup

/-!
# Symbol tables of loaded files

`third_party/simple-pt/symtab.cc`. A table of a file that has been loaded knows
the address space and the range of addresses it is for. A lookup takes the first
table whose address space and range match.
-/

set_option autoImplicit false

namespace Gdbserver.SimplePt

open Logic

/-- `pt_asid_no_cr3` -/
def ptAsidNoCr3 : UInt64 := 0xffffffffffffffff

/-- `offset` is the difference between where the file was loaded and the addresses
recorded in it. -/
structure SymbolTable where
  fileName : Bytes
  cr3 : UInt64
  base : UInt64
  endAddr : UInt64
  offset : UInt64
  isKernel : Bool
  elf : Elf.SymbolTable

namespace SymbolTable

def symbols (table : SymbolTable) : List Elf.Symbol := table.elf.symbols.getD []

/-- The range of the table. -/
def Covers (table : SymbolTable) (pc : UInt64) : Prop := table.base ≤ pc ∧ pc < table.endAddr

instance (table : SymbolTable) (pc : UInt64) : Decidable (table.Covers pc) :=
  inferInstanceAs (Decidable (_ ∧ _))

def findSymbol (library : SortSearch) (table : SymbolTable) (addr : UInt64) : Option Elf.Symbol :=
  if addr < table.base ∨ addr ≥ table.endAddr then none
  else Elf.SymbolTable.findSymbol library table.symbols (addr - table.offset)

end SymbolTable

/-- Zero and `pt_asid_no_cr3` match everything. -/
def cr3Matches (one other : UInt64) : Bool :=
  if one = 0 ∨ other = 0 then true
  else if one = ptAsidNoCr3 ∨ other = ptAsidNoCr3 then true
  else one == other

abbrev SymbolTableTable := List SymbolTable

def findSymbolTable (symtabs : SymbolTableTable) (cr3 pc : UInt64) : Option SymbolTable :=
  match symtabs with
  | [] => none
  | table :: later =>
      if ¬ cr3Matches table.cr3 cr3 then findSymbolTable later cr3 pc
      else if pc < table.base ∨ pc ≥ table.endAddr then findSymbolTable later cr3 pc
      else some table

/-- The symbol, and the table through `out_symtab`. -/
def findSymbol (library : SortSearch) (symtabs : SymbolTableTable) (cr3 pc : UInt64) :
    Option Elf.Symbol × Option SymbolTable :=
  match findSymbolTable symtabs cr3 pc with
  | none => (none, none)
  | some symtab => (symtab.findSymbol library pc, some symtab)

def findPcFileName (symtabs : SymbolTableTable) (cr3 pc : UInt64) : Option Bytes :=
  match symtabs with
  | [] => none
  | table :: later =>
      if ¬ cr3Matches table.cr3 cr3 then findPcFileName later cr3 pc
      else if pc < table.base ∨ pc ≥ table.endAddr then findPcFileName later cr3 pc
      else some table.fileName

/-! ## Lookups take the first table -/

section Lookups

variable {symtabs again : SymbolTableTable} {cr3 pc : UInt64} {table : SymbolTable}

/-- The table is for the address of the address space. -/
def SymbolTable.IsFor (table : SymbolTable) (cr3 pc : UInt64) : Prop :=
  cr3Matches table.cr3 cr3 = true ∧ table.Covers pc

instance (table : SymbolTable) (cr3 pc : UInt64) : Decidable (table.IsFor cr3 pc) :=
  inferInstanceAs (Decidable (_ ∧ _))

theorem SymbolTable.covers_iff : table.Covers pc ↔ ¬ (pc < table.base ∨ pc ≥ table.endAddr) := by
  rw [Covers, not_or, UInt64.not_lt, ge_iff_le, UInt64.not_le]

theorem findSymbolTable_eq_find? (symtabs : SymbolTableTable) (cr3 pc : UInt64) :
    findSymbolTable symtabs cr3 pc = symtabs.find? fun table => table.IsFor cr3 pc := by
  induction symtabs with
  | nil => rfl
  | cons table later ih =>
      rw [findSymbolTable, List.find?_cons]
      by_cases isFor : table.IsFor cr3 pc
      · simp only [isFor.1, not_true_eq_false, ↓reduceIte, SymbolTable.covers_iff.mp isFor.2,
          isFor, decide_true]
      · simp only [isFor, decide_false, ih]
        split
        · rfl
        · next matches_ =>
            rw [if_pos]
            by_contra covered
            exact isFor ⟨not_not.mp matches_, SymbolTable.covers_iff.mpr covered⟩

theorem findPcFileName_eq (symtabs : SymbolTableTable) (cr3 pc : UInt64) :
    findPcFileName symtabs cr3 pc = (findSymbolTable symtabs cr3 pc).map (·.fileName) := by
  induction symtabs with
  | nil => rfl
  | cons table later ih =>
      rw [findPcFileName, findSymbolTable, ih]
      split
      · rfl
      · split <;> rfl

/-- Tables that are there already make no difference. -/
theorem findSymbolTable_again (present : ∀ table ∈ again, table ∈ symtabs) (cr3 pc : UInt64) :
    findSymbolTable (symtabs ++ again) cr3 pc = findSymbolTable symtabs cr3 pc := by
  rw [findSymbolTable_eq_find?, findSymbolTable_eq_find?, List.find?_append]
  cases found : symtabs.find? fun table => table.IsFor cr3 pc with
  | some table => rfl
  | none =>
      have nowhere := List.find?_eq_none.mp found
      rw [Option.none_or, List.find?_eq_none]
      exact fun table member => nowhere table (present table member)

end Lookups

end Gdbserver.SimplePt
