import Gdbserver.Logic.Insertion
import Gdbserver.Utils.NoteBounds

/-!
# The list of shared objects

`lib/debugger-utils/dso-list.cc`: the walk along the list of the dynamic linker
in the memory of the inferior, and the searches in the list it builds. The list
of `dsoinfo_t` is the list of its entries; a pointer to an entry is its position.
-/

set_option autoImplicit false

namespace Gdbserver

namespace Util

open Logic Elf

structure LinkMap where
  lAddr : UInt64
  lName : UInt64
  lLd : UInt64
  lNext : UInt64
  lPrev : UInt64
  deriving DecidableEq, Repr

def LinkMap.size : Nat := 40

def LinkMap.decode (bytes : Bytes) : LinkMap where
  lAddr := field bytes 0 8
  lName := field bytes 8 8
  lLd := field bytes 16 8
  lNext := field bytes 24 8
  lPrev := field bytes 32 8

/-- `dsoinfo_t`. `loadable_phdrs` and `num_loadable_phdrs` are one list. -/
structure DsoInfo where
  base : UInt64
  entry : UInt64
  phdr : UInt64
  loadablePhdrs : List SegmentHeader
  phentsize : UInt32
  phnum : UInt32
  buildid : Bytes
  isMainExec : Bool
  name : Bytes
  deriving DecidableEq, Repr

def newDso (name : Bytes) (base : UInt64) : DsoInfo where
  base := base
  entry := 0
  phdr := 0
  loadablePhdrs := []
  phentsize := 0
  phnum := 0
  buildid := List.replicate (2 * kMaxBuildIdSize) (chr 'x') ++ [0]
  isMainExec := false
  name := if name = ascii "libc.so" then ascii "libmusl.so" else name

/-- The walk of `dsolist_add`: the list with the new entry, and where it is. -/
def dsolistAdd (dso : DsoInfo) : List DsoInfo → List DsoInfo × Nat
  | [] => ([dso], 0)
  | first :: rest =>
      if first.base < dso.base then (dso :: first :: rest, 0)
      else
        let (list, position) := dsolistAdd dso rest
        (first :: list, position + 1)

def cString (buffer : Bytes) : Bytes := buffer.takeWhile (· ≠ 0)

/-- `file_name`: the name in the list, or that of the program when it is empty. -/
def fileNameOf (name : Bytes) (dsoname : StringRead) : Bytes :=
  if cString dsoname.stored = [] then name else cString dsoname.stored

structure DsoFetch where
  dsolist : List DsoInfo
  isMainExec : Bool
  lmapAddr : UInt64

/-- What the loop puts into the new entry once the ELF header has been read. -/
def fillDso (isMainExec : Bool) (hdr : Header) (loadablePhdrs : List SegmentHeader)
    (buildId : BuildIdRead) (dso : DsoInfo) : DsoInfo :=
  { dso with
    loadablePhdrs := loadablePhdrs
    buildid := buildId.buf dso.buildid
    isMainExec := isMainExec
    entry := dso.base + hdr.eEntry
    phdr := dso.base + hdr.ePhoff
    phentsize := hdr.ePhentsize.toUInt32
    phnum := hdr.ePhnum.toUInt32 }

/-- The program headers to keep. Without the segment headers the entry has none. -/
def loadableHeaders (headers : Error × Reader) : List SegmentHeader :=
  match headers with
  | (.ok, reader) => reader.segments.filter fun phdr => phdr.pType = ptLoad
  | _ => []

/-- A turn of the loop, `none` when `ReadBuildId` does not come back within the fuel. -/
def fetchTurn (fuel : Nat) (bb : ByteBlock) (name : Bytes) (state : DsoFetch) :
    Option (Turn DsoFetch (List DsoInfo)) :=
  if state.lmapAddr = 0 then some (.done state.dsolist)
  else
    match bb.read state.lmapAddr LinkMap.size with
    | none => some (.done state.dsolist)
    | some bytes =>
        let lmap := LinkMap.decode bytes
        let dsoname := readString bb lmap.lName 64
        if dsoname.success = false then some (.done state.dsolist)
        else
          let (dsolist, dso) :=
            dsolistAdd (newDso (fileNameOf name dsoname) lmap.lAddr) state.dsolist
          match Reader.create bb lmap.lAddr with
          -- the entry has been added and stays
          | .error _ => some (.done dsolist)
          | .ok reader =>
              let headers := reader.readSegmentHeaders
              match headers.2.readBuildId fuel with
              | none => none
              | some (buildId, _) =>
                  let fill := fillDso state.isMainExec reader.header (loadableHeaders headers) buildId
                  some (.next { dsolist := dsolist.modify dso fill, isMainExec := false,
                                lmapAddr := lmap.lNext })

def dsoFetchList (fuel : Nat) (bb : ByteBlock) (lmapAddr : UInt64) (name : Bytes) :
    Option (List DsoInfo) :=
  loop (fetchTurn fuel bb name) fuel { dsolist := [], isMainExec := true, lmapAddr }

def dsoLookup (dsoList : List DsoInfo) (pc : UInt64) : Option DsoInfo :=
  dsoList.find? fun dso => pc ≥ dso.base

def dsoGetMainExec (dsoList : List DsoInfo) : Option DsoInfo :=
  dsoList.find? fun dso => dso.isMainExec

/-! ## Insertion -/

section Insertion

variable {dso : DsoInfo} {list : List DsoInfo}

/-- Filling in an entry after it has been inserted is inserting it filled in. -/
theorem dsolistAdd_modify (fill : DsoInfo → DsoInfo) (sameBase : (fill dso).base = dso.base) :
    (dsolistAdd dso list).1.modify (dsolistAdd dso list).2 fill =
      insertDescending (fun dso => dso.base.toNat) (fill dso) list := by
  induction list with
  | nil => rfl
  | cons first rest ih =>
      by_cases below : first.base < dso.base
      · have order : first.base.toNat < (fill dso).base.toNat := by
          rwa [sameBase, ← UInt64.lt_iff_toNat_lt]
        simp [dsolistAdd, insertDescending, below, order]
      · have order : ¬ first.base.toNat < (fill dso).base.toNat := by
          rwa [sameBase, ← UInt64.lt_iff_toNat_lt]
        simp [dsolistAdd, insertDescending, below, order, ih]

theorem dsolistAdd_eq : (dsolistAdd dso list).1 =
    insertDescending (fun dso => dso.base.toNat) dso list := by
  have unchanged : (dsolistAdd dso list).1.modify (dsolistAdd dso list).2 id =
      insertDescending (fun dso => dso.base.toNat) (id dso) list := dsolistAdd_modify id rfl
  simpa using unchanged

end Insertion

/-! ## The walk -/

section Walk

variable {bb : ByteBlock} {addr : UInt64} {lmap : LinkMap}

def nodeAt (bb : ByteBlock) (addr : UInt64) : Option LinkMap :=
  if addr = 0 then none
  else
    match bb.read addr LinkMap.size with
    | none => none
    | some bytes =>
        if (readString bb (LinkMap.decode bytes).lName 64).success = true then
          some (LinkMap.decode bytes)
        else none

def nextNode (bb : ByteBlock) (addr : UInt64) : Option UInt64 :=
  (nodeAt bb addr).bind fun lmap =>
    match Reader.create bb lmap.lAddr with
    | .error _ => none
    | .ok _ => some lmap.lNext

/-- The entry of a node. Before the ELF header has been read only the base is set. -/
structure Describes (bb : ByteBlock) (lmap : LinkMap) (isMainExec : Bool) (dso : DsoInfo) :
    Prop where
  base : dso.base = lmap.lAddr
  filled : ∀ reader, Reader.create bb lmap.lAddr = .ok reader →
    dso.isMainExec = isMainExec ∧ dso.entry = lmap.lAddr + reader.header.eEntry ∧
      dso.phdr = lmap.lAddr + reader.header.ePhoff ∧
      ∀ loaded, reader.readSegmentHeaders = (.ok, loaded) →
        dso.loadablePhdrs = loaded.segments.filter fun phdr => phdr.pType = ptLoad

variable {fuel : Nat} {name : Bytes} {state : DsoFetch}

theorem fetchTurn_stop (none : nodeAt bb state.lmapAddr = none) :
    fetchTurn fuel bb name state = some (.done state.dsolist) := by
  rw [nodeAt] at none
  rw [fetchTurn]
  by_cases zero : state.lmapAddr = 0
  · rw [if_pos zero]
  · rw [if_neg zero] at none ⊢
    cases read : bb.read state.lmapAddr LinkMap.size with
    | none => rfl
    | some bytes =>
        simp only [read] at none ⊢
        cases success : (readString bb (LinkMap.decode bytes).lName 64).success with
        | false => simp
        | true => simp [success] at none

theorem nodeAt_eq_some (node : nodeAt bb addr = some lmap) :
    addr ≠ 0 ∧ ∃ bytes, bb.read addr LinkMap.size = some bytes ∧ LinkMap.decode bytes = lmap ∧
      (readString bb lmap.lName 64).success = true := by
  rw [nodeAt] at node
  by_cases zero : addr = 0
  · simp [zero] at node
  · rw [if_neg zero] at node
    cases read : bb.read addr LinkMap.size with
    | none => simp [read] at node
    | some bytes =>
        simp only [read] at node
        cases success : (readString bb (LinkMap.decode bytes).lName 64).success with
        | false => simp [success] at node
        | true =>
            simp only [success, if_true, Option.some.injEq] at node
            subst node
            exact ⟨zero, bytes, rfl, rfl, success⟩

theorem describes_fillDso {reader : Reader} (created : Reader.create bb lmap.lAddr = .ok reader)
    (isMainExec : Bool) (buildId : BuildIdRead) (fileName : Bytes) :
    Describes bb lmap isMainExec (fillDso isMainExec reader.header
      (loadableHeaders reader.readSegmentHeaders) buildId (newDso fileName lmap.lAddr)) where
  base := rfl
  filled other same := by
    rw [created] at same
    cases same
    exact ⟨rfl, rfl, rfl, fun loaded headers => by rw [fillDso, headers]; rfl⟩

theorem fetchTurn_node (fuel : Nat) (name : Bytes) (node : nodeAt bb state.lmapAddr = some lmap) :
    (∃ dso, Describes bb lmap state.isMainExec dso ∧ nextNode bb state.lmapAddr = none ∧
      fetchTurn fuel bb name state =
        some (.done (insertDescending (fun dso => dso.base.toNat) dso state.dsolist))) ∨
    (∃ dso, Describes bb lmap state.isMainExec dso ∧
      nextNode bb state.lmapAddr = some lmap.lNext ∧
      fetchTurn fuel bb name state = some (.next
        { dsolist := insertDescending (fun dso => dso.base.toNat) dso state.dsolist
          isMainExec := false, lmapAddr := lmap.lNext })) ∨
    ∃ reader, Reader.create bb lmap.lAddr = .ok reader ∧
      reader.readSegmentHeaders.2.readBuildId fuel = none ∧ fetchTurn fuel bb name state = none := by
  obtain ⟨notNull, bytes, read, rfl, success⟩ := nodeAt_eq_some node
  cases created : Reader.create bb (LinkMap.decode bytes).lAddr with
  | error error =>
      left
      refine ⟨newDso (fileNameOf name (readString bb (LinkMap.decode bytes).lName 64))
        (LinkMap.decode bytes).lAddr, ⟨rfl, fun reader other => ?_⟩, ?_, ?_⟩
      · rw [created] at other
        cases other
      · simp [nextNode, node, created]
      · simp only [fetchTurn, if_neg notNull, read, success, created, dsolistAdd_eq]
        rfl
  | ok reader =>
      right
      cases scanned : reader.readSegmentHeaders.2.readBuildId fuel with
      | none =>
          right
          refine ⟨reader, rfl, scanned, ?_⟩
          simp [fetchTurn, notNull, read, success, created, scanned]
      | some result =>
          left
          refine ⟨_, describes_fillDso created state.isMainExec result.1
            (fileNameOf name (readString bb (LinkMap.decode bytes).lName 64)), ?_, ?_⟩
          · simp [nextNode, node, created]
          · simp only [fetchTurn, if_neg notNull, read, success, created, scanned]
            rw [dsolistAdd_modify _ rfl]
            rfl

/-- The nodes the walk sees, up to the one where it stops. -/
inductive Collected (bb : ByteBlock) : UInt64 → List LinkMap → Prop
  | stop {addr : UInt64} : nodeAt bb addr = none → Collected bb addr []
  | last {addr : UInt64} {lmap : LinkMap} : nodeAt bb addr = some lmap →
      nextNode bb addr = none → Collected bb addr [lmap]
  | more {addr : UInt64} {lmap : LinkMap} {rest : List LinkMap} : nodeAt bb addr = some lmap →
      nextNode bb addr = some lmap.lNext → Collected bb lmap.lNext rest →
        Collected bb addr (lmap :: rest)

/-- One entry for each node; the flag is for the first. -/
def DescribesAll (bb : ByteBlock) : Bool → List LinkMap → List DsoInfo → Prop
  | _, [], [] => True
  | isMainExec, lmap :: nodes, dso :: entries =>
      Describes bb lmap isMainExec dso ∧ DescribesAll bb false nodes entries
  | _, _, _ => False

/-- The list that the loop returns for the nodes it has seen. -/
def ReturnedFor (bb : ByteBlock) (isMainExec : Bool) (nodes : List LinkMap)
    (added dsolist : List DsoInfo) : Prop :=
  ∃ entries, DescribesAll bb isMainExec nodes entries ∧
    Ranked (fun dso => dso.base.toNat) (added ++ entries) dsolist

theorem ReturnedFor.cons {dso : DsoInfo} {nodes : List LinkMap} {added dsolist : List DsoInfo}
    {isMainExec : Bool} (first : Describes bb lmap isMainExec dso)
    (later : ReturnedFor bb false nodes (added ++ [dso]) dsolist) :
    ReturnedFor bb isMainExec (lmap :: nodes) added dsolist := by
  obtain ⟨entries, described, ranked⟩ := later
  refine ⟨dso :: entries, ⟨first, described⟩, ?_⟩
  rwa [List.append_assoc] at ranked

/-- Whatever the loop returns is the list of what it has collected. -/
theorem collected_of_loop {turns : Nat} {added dsolist : List DsoInfo}
    (ranked : Ranked (fun dso => dso.base.toNat) added state.dsolist)
    (ended : loop (fetchTurn fuel bb name) turns state = some dsolist) :
    ∃ nodes, Collected bb state.lmapAddr nodes ∧
      ReturnedFor bb state.isMainExec nodes added dsolist := by
  induction turns generalizing state added with
  | zero => simp [loop] at ended
  | succ turns ih =>
      cases node : nodeAt bb state.lmapAddr with
      | none =>
          rw [loop_done (fetchTurn_stop node)] at ended
          cases ended
          exact ⟨[], .stop node, ⟨[], trivial, by rwa [List.append_nil]⟩⟩
      | some lmap =>
          rcases fetchTurn_node fuel name node with
            ⟨dso, describes, next, turn⟩ | ⟨dso, describes, next, turn⟩ | ⟨reader, -, -, turn⟩
          · rw [loop_done turn] at ended
            cases ended
            exact ⟨[lmap], .last node next, ⟨[dso], ⟨describes, trivial⟩, ranked.insert dso⟩⟩
          · rw [loop_next turn] at ended
            obtain ⟨nodes, collected, returned⟩ := ih (ranked.insert dso) ended
            exact ⟨lmap :: nodes, .more node next collected, returned.cons describes⟩
          · simp [loop, turn] at ended

theorem readBuildId_ends_of_created (lower : LowerHalf bb) (enough : 2 ^ 64 < fuel)
    {base : UInt64} {reader : Reader} (created : Reader.create bb base = .ok reader) :
    reader.readSegmentHeaders.2.readBuildId fuel ≠ none := by
  have block : reader.byteBlock = bb := by
    rw [Reader.create] at created
    cases read : Reader.readHeader bb base with
    | none => simp [read] at created
    | some header =>
        simp only [read] at created
        by_cases accepted : Reader.verifyHeader header = true
        · rw [if_pos accepted] at created
          cases created
          rfl
        · rw [if_neg accepted] at created
          cases created
  rw [← block, ← (Reader.readSegmentHeaders_place reader).1] at lower
  obtain ⟨result, ended⟩ := readBuildId_ends_of_lowerHalf lower enough
  rw [ended]
  exact Option.some_ne_none result

/-- A walk that stops is walked to its end. -/
theorem loop_of_collected (lower : LowerHalf bb) (enough : 2 ^ 64 < fuel) {nodes : List LinkMap}
    (collected : Collected bb addr nodes) (start : state.lmapAddr = addr) {turns : Nat}
    (room : nodes.length < turns) :
    ∃ dsolist, loop (fetchTurn fuel bb name) turns state = some dsolist := by
  induction collected generalizing state turns with
  | stop none =>
      obtain ⟨turns, rfl⟩ : ∃ rest, turns = rest + 1 := ⟨turns - 1, by omega⟩
      exact ⟨_, loop_done (fetchTurn_stop (by rwa [start])) turns⟩
  | @last addr lmap node next =>
      obtain ⟨turns, rfl⟩ : ∃ rest, turns = rest + 1 := ⟨turns - 1, by omega⟩
      subst start
      rcases fetchTurn_node fuel name node with
        ⟨dso, -, -, turn⟩ | ⟨dso, -, other, -⟩ | ⟨reader, created, never, -⟩
      · exact ⟨_, loop_done turn turns⟩
      · rw [next] at other
        cases other
      · exact absurd never (readBuildId_ends_of_created lower enough created)
  | @more addr lmap rest node next _ ih =>
      obtain ⟨turns, rfl⟩ : ∃ rest, turns = rest + 1 := ⟨turns - 1, by omega⟩
      subst start
      rcases fetchTurn_node fuel name node with
        ⟨dso, -, other, -⟩ | ⟨dso, -, -, turn⟩ | ⟨reader, created, never, -⟩
      · rw [next] at other
        cases other
      · rw [loop_next turn]
        exact ih rfl (Nat.lt_of_succ_lt_succ room)
      · exact absurd never (readBuildId_ends_of_created lower enough created)

/-! ## When the walk ends -/

theorem nextNode_of_none (gone : nodeAt bb addr = none) : nextNode bb addr = none := by
  rw [nextNode, gone]
  rfl

theorem nextNode_cases (node : nodeAt bb addr = some lmap) :
    nextNode bb addr = none ∨ nextNode bb addr = some lmap.lNext := by
  rw [nextNode, node, Option.bind_some]
  cases Reader.create bb lmap.lAddr with
  | error error => exact Or.inl rfl
  | ok reader => exact Or.inr rfl

theorem walk_ends_of_collected {nodes : List LinkMap} (collected : Collected bb addr nodes) :
    ∃ moves, walk (nextNode bb) addr moves = none := by
  induction collected with
  | stop gone => exact ⟨1, by rw [walk, walk, Option.bind_some, nextNode_of_none gone]⟩
  | last node next => exact ⟨1, by rw [walk, walk, Option.bind_some, next]⟩
  | more node next _ ih =>
      obtain ⟨moves, ended⟩ := ih
      exact ⟨moves + 1, by rw [walk_succ, next, Option.bind_some, ended]⟩

theorem collected_of_walk_ends {moves : Nat} (ended : walk (nextNode bb) addr moves = none) :
    ∃ nodes, Collected bb addr nodes := by
  induction moves generalizing addr with
  | zero => cases ended
  | succ moves ih =>
      cases node : nodeAt bb addr with
      | none => exact ⟨[], .stop node⟩
      | some lmap =>
          cases nextNode_cases node with
          | inl next => exact ⟨[lmap], .last node next⟩
          | inr next =>
              rw [walk_succ, next, Option.bind_some] at ended
              obtain ⟨nodes, collected⟩ := ih ended
              exact ⟨lmap :: nodes, .more node next collected⟩

theorem Collected.unique {nodes others : List LinkMap} (collected : Collected bb addr nodes)
    (again : Collected bb addr others) : nodes = others := by
  induction collected generalizing others with
  | stop gone =>
      cases again with
      | stop _ => rfl
      | last node _ => simp [gone] at node
      | more node _ _ => simp [gone] at node
  | last node next =>
      cases again with
      | stop gone => simp [gone] at node
      | last other _ =>
          rw [node] at other
          cases other
          rfl
      | more _ goesOn _ => simp [next] at goesOn
  | more node next _ ih =>
      cases again with
      | stop gone => simp [gone] at node
      | last _ stops => simp [next] at stops
      | more other _ later =>
          rw [node] at other
          cases other
          rw [ih later]

end Walk

theorem lowerHalf_imageBlock {contents : Bytes} (small : contents.length < 2 ^ 63) :
    LowerHalf (imageBlock contents) := by
  intro address length granted
  have within : address.toNat + length ≤ contents.length := of_decide_eq_true granted
  omega

theorem finite_addresses : Finite UInt64 :=
  Finite.of_injective UInt64.toFin fun _ _ same => UInt64.toFin_inj.mp same

/-- The memory of a process: a user address space ends below the upper half. -/
structure InferiorMemory where
  block : ByteBlock
  lower : LowerHalf block

/-- The loop of `dso_fetch_list` ends exactly when the walk along the list of the
dynamic linker comes to no node twice. What it returns is the ranked list of the
nodes it has seen. -/
theorem dsoFetchList_returns_iff (memory : InferiorMemory) (lmapAddr : UInt64) (name : Bytes) :
    ((∃ fuel dsolist, dsoFetchList fuel memory.block lmapAddr name = some dsolist) ↔
      ∀ first again addr, first < again → walk (nextNode memory.block) lmapAddr first = some addr →
        walk (nextNode memory.block) lmapAddr again ≠ some addr) ∧
    ∀ fuel dsolist, dsoFetchList fuel memory.block lmapAddr name = some dsolist →
      ∃ nodes, Collected memory.block lmapAddr nodes ∧
        ReturnedFor memory.block true nodes [] dsolist := by
  have collects (fuel : Nat) (dsolist : List DsoInfo)
      (returned : dsoFetchList fuel memory.block lmapAddr name = some dsolist) :
      ∃ nodes, Collected memory.block lmapAddr nodes ∧
        ReturnedFor memory.block true nodes [] dsolist := collected_of_loop .nil returned
  have := finite_addresses
  refine ⟨?_, collects⟩
  rw [← walk_ends_iff]
  constructor
  · rintro ⟨fuel, dsolist, returned⟩
    obtain ⟨nodes, collected, -⟩ := collects fuel dsolist returned
    exact walk_ends_of_collected collected
  · rintro ⟨moves, ended⟩
    obtain ⟨nodes, collected⟩ := collected_of_walk_ends ended
    exact ⟨2 ^ 64 + nodes.length + 1,
      loop_of_collected memory.lower (by omega) collected rfl (by omega)⟩

/-- A program at address 0 with one node, which is its own successor. The name is
at address 104. -/
def circularNode : Bytes :=
  imageHeader 0 0 0 0 ++ numberBytes 8 0 ++ numberBytes 8 104 ++ numberBytes 8 0 ++
    numberBytes 8 64 ++ numberBytes 8 0 ++ List.replicate 63 0

def circularMemory : InferiorMemory where
  block := imageBlock circularNode
  lower := lowerHalf_imageBlock (by decide +kernel)

/-- No number of turns is enough. -/
theorem dsoFetchList_circular :
    ¬ ∃ fuel name dsolist, dsoFetchList fuel circularMemory.block 64 name = some dsolist := by
  rintro ⟨fuel, name, dsolist, returned⟩
  obtain ⟨nodes, collected, -⟩ := collected_of_loop .nil returned
  obtain ⟨moves, ended⟩ := walk_ends_of_collected collected
  have stays : nextNode circularMemory.block 64 = some 64 := by decide +kernel
  have there : ∀ moves, walk (nextNode circularMemory.block) 64 moves = some 64 := by
    intro moves
    induction moves with
    | zero => rfl
    | succ moves ih => rw [walk, ih, Option.bind_some, stays]
  rw [there] at ended
  cases ended

/-! ## Complete lists -/

/-- A chain of nodes that ends with a null pointer. -/
inductive LinkChain (bb : ByteBlock) : UInt64 → List LinkMap → Prop
  | null : LinkChain bb 0 []
  | node {addr : UInt64} {bytes : Bytes} {rest : List LinkMap} : addr ≠ 0 →
      bb.read addr LinkMap.size = some bytes → LinkChain bb (LinkMap.decode bytes).lNext rest →
        LinkChain bb addr (LinkMap.decode bytes :: rest)

/-- The name of a node and the headers of its image can be read and are accepted. -/
structure NodeReads (bb : ByteBlock) (lmap : LinkMap) : Prop where
  name : (readString bb lmap.lName 64).success = true
  image : ∃ reader loaded, Reader.create bb lmap.lAddr = .ok reader ∧
    reader.readSegmentHeaders = (.ok, loaded)

theorem nodeReads_of_accepted {bb : ByteBlock} {lmap : LinkMap}
    (name : (readString bb lmap.lName 64).success = true)
    (granted : bb.readable lmap.lAddr Header.size = true)
    (accepted : Reader.verifyHeader (Header.decode (bb.bytes lmap.lAddr Header.size)) = true)
    (headers : (Reader.readSegmentHeaders
      { byteBlock := bb
        base := lmap.lAddr
        header := Header.decode (bb.bytes lmap.lAddr Header.size) }).1 = .ok) :
    NodeReads bb lmap :=
  ⟨name, _, _, Reader.create_of_accepted granted accepted, by rw [← headers]⟩

theorem collected_of_chain {bb : ByteBlock} {addr : UInt64} {nodes : List LinkMap}
    (chain : LinkChain bb addr nodes) (reads : ∀ lmap ∈ nodes, NodeReads bb lmap) :
    Collected bb addr nodes := by
  induction chain with
  | null => exact .stop rfl
  | @node addr bytes rest notNull read chain ih =>
      obtain ⟨first, later⟩ := List.forall_mem_cons.mp reads
      have node : nodeAt bb addr = some (LinkMap.decode bytes) := by
        simp [nodeAt, notNull, read, first.name]
      obtain ⟨reader, loaded, created, -⟩ := first.image
      exact .more node (by simp [nextNode, node, created]) (ih later)

structure CompleteEntry (bb : ByteBlock) (lmap : LinkMap) (isMainExec : Bool) (dso : DsoInfo) :
    Prop where
  base : dso.base = lmap.lAddr
  isMainExec : dso.isMainExec = isMainExec
  loadablePhdrs : ∀ reader loaded, Reader.create bb lmap.lAddr = .ok reader →
    reader.readSegmentHeaders = (.ok, loaded) →
      dso.loadablePhdrs = loaded.segments.filter fun phdr => phdr.pType = ptLoad

theorem Describes.complete {bb : ByteBlock} {lmap : LinkMap} {isMainExec : Bool} {dso : DsoInfo}
    (describes : Describes bb lmap isMainExec dso) (reads : NodeReads bb lmap) :
    CompleteEntry bb lmap isMainExec dso := by
  obtain ⟨reader, loaded, created, headers⟩ := reads.image
  refine ⟨describes.base, (describes.filled reader created).1, fun other after same loads => ?_⟩
  exact (describes.filled other same).2.2.2 after loads

theorem DescribesAll.complete {bb : ByteBlock} {nodes : List LinkMap} {entries : List DsoInfo}
    {isMainExec : Bool} (described : DescribesAll bb isMainExec nodes entries)
    (reads : ∀ lmap ∈ nodes, NodeReads bb lmap) :
    entries.length = nodes.length ∧ ∀ index lmap dso, nodes[index]? = some lmap →
      entries[index]? = some dso →
        CompleteEntry bb lmap (if index = 0 then isMainExec else false) dso := by
  induction nodes generalizing entries isMainExec with
  | nil =>
      cases entries with
      | nil => exact ⟨rfl, fun index lmap dso node => by simp at node⟩
      | cons dso entries => exact described.elim
  | cons first rest ih =>
      cases entries with
      | nil => exact described.elim
      | cons dso entries =>
          obtain ⟨readsFirst, readsRest⟩ := List.forall_mem_cons.mp reads
          obtain ⟨same, all⟩ := ih described.2 readsRest
          refine ⟨by rw [List.length_cons, List.length_cons, same], ?_⟩
          intro index lmap other node entry
          cases index with
          | zero =>
              cases node
              cases entry
              exact described.1.complete readsFirst
          | succ index =>
              rw [List.getElem?_cons_succ] at node entry
              have complete := all index lmap other node entry
              rwa [ite_self] at complete

/-- The list for the nodes of a chain: one entry for each, by descending base and
in the order of the chain for the same base, and what the lookup finds in it. -/
structure FetchedList (bb : ByteBlock) (nodes : List LinkMap) (entries dsolist : List DsoInfo) :
    Prop where
  length : entries.length = nodes.length
  complete : ∀ index lmap dso, nodes[index]? = some lmap → entries[index]? = some dso →
    CompleteEntry bb lmap (decide (index = 0)) dso
  perm : dsolist.Perm entries
  descending : dsolist.Pairwise fun before behind => behind.base ≤ before.base
  stable : ∀ base, dsolist.filter (fun dso => dso.base = base) =
    entries.filter fun dso => dso.base = base
  notFound : ∀ pc, dsoLookup dsolist pc = none ↔ ∀ dso ∈ entries, pc < dso.base
  found : ∀ pc dso, dsoLookup dsolist pc = some dso → dso.base ≤ pc ∧
    (∀ other ∈ entries, other.base ≤ pc → other.base ≤ dso.base) ∧
    entries.find? (fun other => other.base = dso.base) = some dso
  mainExec : dsoGetMainExec dsolist = entries.head?

theorem dsoLookup_eq (dsolist : List DsoInfo) (pc : UInt64) : dsoLookup dsolist pc =
    dsolist.find? fun dso => dso.base.toNat ≤ pc.toNat := by
  simp only [dsoLookup, ge_iff_le, UInt64.le_iff_toNat_le]

/-- Only the first entry has the flag, so the search for it finds the first node. -/
theorem dsoGetMainExec_eq_head? {entries dsolist : List DsoInfo} (perm : dsolist.Perm entries)
    (only : ∀ index dso, entries[index]? = some dso → dso.isMainExec = decide (index = 0)) :
    dsoGetMainExec dsolist = entries.head? := by
  cases entries with
  | nil =>
      rw [List.perm_nil.mp perm]
      rfl
  | cons first rest =>
      cases found : dsoGetMainExec dsolist with
      | none =>
          have unset := List.find?_eq_none.mp found first (perm.mem_iff.mpr List.mem_cons_self)
          exact absurd (only 0 first rfl) unset
      | some dso =>
          have set := List.find?_some found
          have member := perm.mem_iff.mp (List.mem_of_find?_eq_some found)
          obtain ⟨index, entry⟩ := List.mem_iff_getElem?.mp member
          have zero : index = 0 := by
            have flag := only index dso entry
            rw [set] at flag
            exact of_decide_eq_true flag.symm
          subst zero
          exact entry.symm

theorem fetchedList_of_ranked {bb : ByteBlock} {nodes : List LinkMap}
    {entries dsolist : List DsoInfo} (described : DescribesAll bb true nodes entries)
    (reads : ∀ lmap ∈ nodes, NodeReads bb lmap)
    (ranked : Ranked (fun dso => dso.base.toNat) entries dsolist) :
    FetchedList bb nodes entries dsolist := by
  obtain ⟨length, complete⟩ := described.complete reads
  have entryAt (index : Nat) (lmap : LinkMap) (dso : DsoInfo) (node : nodes[index]? = some lmap)
      (entry : entries[index]? = some dso) : CompleteEntry bb lmap (decide (index = 0)) dso := by
    have whole := complete index lmap dso node entry
    by_cases zero : index = 0
    · rwa [if_pos zero, ← decide_eq_true zero] at whole
    · rwa [if_neg zero, ← decide_eq_false zero] at whole
  refine ⟨length, entryAt, ranked.perm, ?_, fun base => ?_, fun pc => ?_, fun pc dso found => ?_,
    dsoGetMainExec_eq_head? ranked.perm fun index dso entry => ?_⟩
  · exact ranked.descending.imp fun order => UInt64.le_iff_toNat_le.mpr order
  · simpa only [UInt64.toNat_inj] using ranked.stable base.toNat
  · rw [dsoLookup_eq, ranked.find?_eq_none]
    simp only [UInt64.lt_iff_toNat_lt]
  · rw [dsoLookup_eq] at found
    obtain ⟨within, greatest, first⟩ := ranked.find?_eq_some found
    simp only [UInt64.toNat_inj] at first
    simp only [UInt64.le_iff_toNat_le]
    exact ⟨within, greatest, first⟩
  · have inside : index < nodes.length := by
      rw [← length]
      exact (List.getElem?_eq_some_iff.mp entry).1
    exact (entryAt index _ dso (List.getElem?_eq_getElem inside) entry).isMainExec

/-- The list of shared objects is complete, ordered and searched correctly. -/
theorem dsoFetchList_complete (memory : InferiorMemory) (lmapAddr : UInt64) (name : Bytes)
    (nodes : List LinkMap) (chain : LinkChain memory.block lmapAddr nodes)
    (reads : ∀ lmap ∈ nodes, NodeReads memory.block lmap) :
    ∃ enough, ∀ fuel ≥ enough, ∃ dsolist entries,
      dsoFetchList fuel memory.block lmapAddr name = some dsolist ∧
        FetchedList memory.block nodes entries dsolist := by
  have collected := collected_of_chain chain reads
  refine ⟨2 ^ 64 + nodes.length + 1, fun fuel enough => ?_⟩
  obtain ⟨dsolist, returned⟩ :
      ∃ dsolist, dsoFetchList fuel memory.block lmapAddr name = some dsolist :=
    loop_of_collected memory.lower (by omega) collected rfl (by omega)
  obtain ⟨others, again, entries, described, ranked⟩ := collected_of_loop .nil returned
  rw [← collected.unique again] at described
  exact ⟨dsolist, entries, returned, fetchedList_of_ranked described reads ranked⟩

/-- A program at address 0 with a loadable segment and a library at address 120;
the nodes are at 184 and 224, and both names at 264. -/
def twoObjects : Bytes :=
  imageHeader 64 0 1 0 ++ segmentBytes ptLoad 0 120 ++ imageHeader 0 0 0 0 ++
    numberBytes 8 0 ++ numberBytes 8 264 ++ numberBytes 8 0 ++ numberBytes 8 224 ++
    numberBytes 8 0 ++
    numberBytes 8 120 ++ numberBytes 8 264 ++ numberBytes 8 0 ++ numberBytes 8 0 ++
    numberBytes 8 184 ++ List.replicate 63 0

def twoObjectsMemory : InferiorMemory where
  block := imageBlock twoObjects
  lower := lowerHalf_imageBlock (by decide +kernel)

theorem twoObjects_chain : LinkChain (imageBlock twoObjects) 184
    [⟨0, 264, 0, 224, 0⟩, ⟨120, 264, 0, 0, 184⟩] := by
  have first : LinkMap.decode ((imageBlock twoObjects).bytes 184 LinkMap.size) =
      ⟨0, 264, 0, 224, 0⟩ := by decide +kernel
  have second : LinkMap.decode ((imageBlock twoObjects).bytes 224 LinkMap.size) =
      ⟨120, 264, 0, 0, 184⟩ := by decide +kernel
  rw [← first, ← second]
  refine .node (by decide) (ByteBlock.read_of_readable (by decide +kernel)) ?_
  rw [first]
  refine .node (by decide) (ByteBlock.read_of_readable (by decide +kernel)) ?_
  rw [second]
  exact .null

theorem twoObjects_fetched : ∃ enough, ∀ fuel ≥ enough, ∃ dsolist entries,
    dsoFetchList fuel twoObjectsMemory.block 184 (ascii "main") = some dsolist ∧
      FetchedList twoObjectsMemory.block [⟨0, 264, 0, 224, 0⟩, ⟨120, 264, 0, 0, 184⟩]
        entries dsolist := by
  apply dsoFetchList_complete twoObjectsMemory 184 (ascii "main") _ twoObjects_chain
  intro lmap member
  cases List.mem_cons.mp member with
  | inl first =>
      subst first
      exact nodeReads_of_accepted (by decide +kernel) (by decide +kernel) (by decide +kernel)
        (by decide +kernel)
  | inr second =>
      rw [List.mem_singleton] at second
      subst second
      exact nodeReads_of_accepted (by decide +kernel) (by decide +kernel) (by decide +kernel)
        (by decide +kernel)

end Util

end Gdbserver
