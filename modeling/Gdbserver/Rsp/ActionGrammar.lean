import Gdbserver.Rsp.ThreadIds
import Mathlib.Data.List.Forall2

/-!
# The grammar of action lists

What a `vCont` action list says, item by item. The constructor of `ThreadActionList`
accepts the lists of the grammar and stores what they say. It also accepts items with a
process and no thread, up to an index that was never set.
-/

set_option autoImplicit false

namespace Gdbserver

open Logic Util

namespace ThreadActionList

inductive Letter : UInt8 → Action → Prop
  | continue : Letter (chr 'c') .continue
  | step : Letter (chr 's') .step

/-- A number of a thread id as an entry holds it. -/
def stored (number : Int64) : UInt64 := if number = -1 then kAll else number.toUInt64

/-- One item, and the default action or the entry it stands for. -/
inductive Item (curProc : UInt64) : Bytes → Action ⊕ Entry → Prop
  | default {letter : UInt8} {action : Action} : Letter letter action →
      Item curProc [letter] (.inl action)
  | thread {letter : UInt8} {action : Action} {text : Bytes} {tid : Int64} :
      Letter letter action → Ftl.Numeral text tid → -1 ≤ tid →
      Item curProc (letter :: chr ':' :: text) (.inr ⟨action, curProc, stored tid⟩)
  | threadOf {letter : UInt8} {action : Action} {process thread : Bytes} {pid tid : Int64} :
      Letter letter action → Ftl.Numeral process pid → Ftl.Numeral thread tid →
      -1 ≤ pid → -1 ≤ tid → (pid = -1 → tid = -1) →
      Item curProc (letter :: chr ':' :: chr 'p' :: (process ++ chr '.' :: thread))
        (.inr ⟨action, if pid = 0 then curProc else stored pid, stored tid⟩)

/-- A process without `.` and a thread, which the grammar leaves open. -/
def OmitsThread (item : Bytes) : Prop :=
  ∃ letter process pid, item = letter :: chr ':' :: chr 'p' :: process ∧ Ftl.Numeral process pid

/-- Without a dot, what stands before the index that was never set is read as a process. -/
def ReadAsProcess (garbage : UInt64) (item : Bytes) : Prop :=
  ∃ letter rest pid, item = letter :: chr ':' :: chr 'p' :: rest ∧ chr '.' ∉ rest ∧
    Ftl.Numeral (rest.take (garbage - 1).toNat) pid ∧ -1 ≤ pid

/-- The index is another one for each item. -/
def SomeReadAsProcess (garbage : Nat → UInt64) : List Bytes → Prop
  | [] => False
  | item :: rest => ReadAsProcess (garbage rest.length) item ∨ SomeReadAsProcess garbage rest

/-- The string is the list of the items: semicolons between them and perhaps
one after the last, and no second default action. -/
structure Spells (curProc : UInt64) (string : Bytes) (items : List (Action ⊕ Entry)) : Prop where
  texts : ∃ texts, List.Forall₂ (Item curProc) texts items ∧
    (string = [chr ';'].intercalate texts ∨ string = [chr ';'].intercalate texts ++ [chr ';'])
  ne_nil : items ≠ []
  oneDefault : (items.filterMap Sum.getLeft?).length ≤ 1

def threadItems (items : List (Action ⊕ Entry)) : List Entry := items.filterMap Sum.getRight?

def defaultItem (items : List (Action ⊕ Entry)) : Action :=
  (items.filterMap Sum.getLeft?).head?.getD .none

theorem decodeAction_eq_some_iff {letter : UInt8} {action : Action} :
    decodeAction letter = some action ↔ Letter letter action := by
  rw [decodeAction]
  constructor
  · intro decoded
    split at decoded
    · rename_i same
      cases decoded
      exact same ▸ .continue
    · split at decoded
      · rename_i same
        cases decoded
        exact same ▸ .step
      · cases decoded
  · intro letter
    cases letter <;> rfl

theorem Letter.ne_none {letter : UInt8} {action : Action} (is : Letter letter action) :
    action ≠ .none := by
  cases is <;> decide

theorem Letter.unique {letter : UInt8} {action other : Action} (is : Letter letter action)
    (also : Letter letter other) : action = other := by
  have same := (decodeAction_eq_some_iff.mpr is).symm.trans (decodeAction_eq_some_iff.mpr also)
  exact Option.some.inj same

theorem Letter.clear {letter : UInt8} {action : Action} (is : Letter letter action) :
    letter ≠ chr ';' := by
  cases is <;> decide

theorem Item.ne_nil {curProc : UInt64} {text : Bytes} {item : Action ⊕ Entry}
    (is : Item curProc text item) : text ≠ [] := by
  cases is <;> exact List.cons_ne_nil _ _

theorem Item.clear {curProc : UInt64} {text : Bytes} {item : Action ⊕ Entry}
    (is : Item curProc text item) : chr ';' ∉ text := by
  have number : ∀ {text : Bytes} {value : Int64}, Ftl.Numeral text value → chr ';' ∉ text :=
    fun numeral => numeral.clear (by decide) (by decide)
  cases is with
  | default letter => simpa using letter.clear.symm
  | thread letter text =>
      simp only [List.mem_cons, not_or]
      exact ⟨letter.clear.symm, by decide, number text⟩
  | threadOf letter process thread =>
      simp only [List.mem_cons, List.mem_append, not_or]
      exact ⟨letter.clear.symm, by decide, by decide, number process, by decide, number thread⟩

theorem Item.not_readAsProcess {curProc garbage : UInt64} {text : Bytes} {item : Action ⊕ Entry}
    (is : Item curProc text item) : ¬ ReadAsProcess garbage text := by
  rintro ⟨letter, rest, pid, same, dotless, -⟩
  cases is with
  | default => cases same
  | thread _ numeral =>
      cases same
      exact numeral_ne_p numeral rfl
  | threadOf =>
      cases same
      exact dotless (List.mem_append_right _ List.mem_cons_self)

section Entries

variable {ftl : Ftl} (reads : ftl.ReadsSigned) (garbage : UInt64) {curProc : UInt64}
  (small : curProc.toNat < 2 ^ 63)

theorem not_le_neg_two_iff (number : Int64) : ¬ number ≤ -2 ↔ -1 ≤ number := by
  rw [Int64.le_iff_toInt_le, Int64.le_iff_toInt_le]
  have two : (-2 : Int64).toInt = -2 := by decide
  have one : (-1 : Int64).toInt = -1 := by decide
  omega

include small in
theorem toInt64_ne_neg_one : curProc.toInt64 ≠ -1 := by
  intro same
  have number := Ftl.toInt_toInt64 small
  rw [same] at number
  have one : (-1 : Int64).toInt = -1 := by decide
  omega

/-- The ids an entry can be made of. -/
structure Acceptable (id : ThreadId) : Prop where
  pid : id.hasPid = true → -1 ≤ id.pid
  tid : -1 ≤ id.tid
  every : id.hasPid = true → id.pid = -1 → id.tid = -1

/-- An id of the current process may have any thread. -/
theorem Acceptable.of_here {id : ThreadId} (pid : id.hasPid = true → -1 ≤ id.pid)
    (tid : -1 ≤ id.tid) (here : id.hasPid = false ∨ id.pid = 0) : Acceptable id := by
  refine ⟨pid, tid, fun has all => ?_⟩
  rcases here with no | zero
  · rw [no] at has
    cases has
  · rw [zero] at all
    exact absurd all (by decide)

def entryFor (action : Action) (curProc : UInt64) (id : ThreadId) : Entry :=
  ⟨action, if id.hasPid = false ∨ id.pid = 0 then curProc else stored id.pid, stored id.tid⟩

include small in
theorem parseEntry_eq_some_iff (action : Action) (text : Bytes) (entry : Entry) :
    parseEntry ftl garbage action curProc text = some entry ↔
      ∃ id, parseThreadId ftl garbage text = some id ∧ Acceptable id ∧
        entry = entryFor action curProc id := by
  rw [parseEntry]
  cases parsed : parseThreadId ftl garbage text with
  | none => simp
  | some id =>
      have guard : ¬ ((id.hasPid = true ∧ id.pid ≤ -2) ∨ id.tid ≤ -2) ↔
          (id.hasPid = true → -1 ≤ id.pid) ∧ -1 ≤ id.tid := by
        rw [not_or, not_and, not_le_neg_two_iff, not_le_neg_two_iff]
      simp only [Option.some.injEq, exists_eq_left']
      by_cases inRange : (id.hasPid = true ∧ id.pid ≤ -2) ∨ id.tid ≤ -2
      · rw [if_pos inRange]
        constructor
        · intro made
          cases made
        · rintro ⟨acceptable, -⟩
          exact absurd inRange (guard.mpr ⟨acceptable.pid, acceptable.tid⟩)
      · rw [if_neg inRange]
        obtain ⟨pid, tid⟩ := guard.mp inRange
        by_cases here : ¬ id.hasPid = true ∨ id.pid = 0
        · -- the current process, whose koid is no `-1`
          have current := toInt64_ne_neg_one small
          have named : id.hasPid = false ∨ id.pid = 0 := by simpa using here
          have acceptable : Acceptable id := .of_here pid tid named
          simp only [if_pos here, current, false_and, if_false, entryFor, if_pos named, stored,
            UInt64.toUInt64_toInt64, Option.some.injEq, acceptable, true_and]
          exact eq_comm
        · have named : ¬ (id.hasPid = false ∨ id.pid = 0) := by simpa using here
          have has : id.hasPid = true := by simpa using (not_or.mp here).1
          simp only [if_neg here, entryFor, if_neg named]
          by_cases every : id.pid = -1 ∧ id.tid ≠ -1
          · rw [if_pos every]
            constructor
            · intro made
              cases made
            · rintro ⟨acceptable, -⟩
              exact absurd (acceptable.every has every.1) every.2
          · rw [if_neg every, Option.some.injEq]
            have acceptable : Acceptable id :=
              ⟨pid, tid, fun _ all => by_contra fun one => every ⟨all, one⟩⟩
            simp only [acceptable, true_and, stored]
            exact eq_comm

include reads small in
/-- The arguments of an item of the grammar make its entry. -/
theorem parseEntry_of_item {letter : UInt8} {action : Action} (is : Letter letter action)
    {text : Bytes} {entry : Entry} (item : Item curProc (letter :: chr ':' :: text) (.inr entry)) :
    parseEntry ftl garbage action curProc text = some entry := by
  rw [parseEntry_eq_some_iff garbage small]
  cases item with
  | thread other numeral tid =>
      obtain rfl := is.unique other
      obtain ⟨first, rest, rfl⟩ := List.exists_cons_of_ne_nil numeral.ne_nil
      refine ⟨_, (parseThreadId_thread_iff reads garbage (numeral_ne_p numeral) _).mpr
        (.thread numeral), ?_, rfl⟩
      exact ⟨fun has => absurd has Bool.false_ne_true, tid, fun has => absurd has Bool.false_ne_true⟩
  | threadOf other processNumeral threadNumeral pid tid every =>
      obtain rfl := is.unique other
      refine ⟨_, (parseThreadId_dotted_iff reads garbage
        (List.mem_append_right _ List.mem_cons_self) _).mpr
          (.threadOf processNumeral threadNumeral), ⟨fun _ => pid, tid, fun _ => every⟩, ?_⟩
      simp [entryFor]

include reads small in
/-- Nothing else makes an entry, but for what is read as a process. -/
theorem item_of_parseEntry {letter : UInt8} {action : Action} (is : Letter letter action)
    {text : Bytes} (named : ¬ ReadAsProcess garbage (letter :: chr ':' :: text)) {entry : Entry}
    (parsed : parseEntry ftl garbage action curProc text = some entry) :
    Item curProc (letter :: chr ':' :: text) (.inr entry) := by
  obtain ⟨id, read, acceptable, rfl⟩ := (parseEntry_eq_some_iff garbage small ..).mp parsed
  cases text with
  | nil => simp [parseThreadId] at read
  | cons first rest =>
      by_cases process : first = chr 'p'
      · subst process
        by_cases dotted : chr '.' ∈ rest
        · cases (parseThreadId_dotted_iff reads garbage dotted id).mp read with
          | thread numeral => exact absurd rfl (numeral_ne_p numeral)
          | threadOf processNumeral threadNumeral =>
              have item : Item curProc _ _ := .threadOf is processNumeral threadNumeral
                (acceptable.pid rfl) acceptable.tid (acceptable.every rfl)
              simpa [entryFor] using item
          | process numeral => exact absurd dotted (numeral_clear numeral)
        · obtain ⟨pid, numeral, rfl⟩ := (parseThreadId_dotless_iff reads garbage dotted id).mp read
          exact absurd ⟨letter, rest, pid, rfl, dotted, numeral, acceptable.pid rfl⟩ named
      · cases (parseThreadId_thread_iff reads garbage process id).mp read with
        | thread numeral => exact .thread is numeral acceptable.tid
        | threadOf => exact absurd rfl process
        | process => exact absurd rfl process

end Entries

/-- What the constructor makes of items that have been read one by one. -/
def collect : Action → List Entry → List (Action ⊕ Entry) → ThreadActionList
  | defaultAction, actions, [] => ⟨true, defaultAction, actions⟩
  | defaultAction, actions, .inl action :: rest =>
      if defaultAction ≠ .none then ⟨false, .none, actions⟩ else collect action actions rest
  | defaultAction, actions, .inr entry :: rest => collect defaultAction (actions ++ [entry]) rest

/-- One item as the loop reads it. -/
def readItem (ftl : Ftl) (garbage : UInt64) (curProc : UInt64) : Bytes → Option (Action ⊕ Entry)
  | [] => none
  | letter :: arguments =>
      (decodeAction letter).bind fun action =>
        match arguments with
        | [] => some (.inl action)
        | colon :: threadId =>
            if colon ≠ chr ':' then none
            else (parseEntry ftl garbage action curProc threadId).map .inr

theorem parseItems_cons (ftl : Ftl) (garbage : Nat → UInt64) (curProc : UInt64)
    (defaultAction : Action) (actions : List Entry) (text : Bytes) (rest : List Bytes) :
    parseItems ftl garbage curProc defaultAction actions (text :: rest) =
      match readItem ftl (garbage rest.length) curProc text with
      | none => ⟨false, .none, actions⟩
      | some (.inl action) =>
          if defaultAction ≠ .none then ⟨false, .none, actions⟩
          else parseItems ftl garbage curProc action actions rest
      | some (.inr entry) => parseItems ftl garbage curProc defaultAction (actions ++ [entry]) rest := by
  cases text with
  | nil => rfl
  | cons letter arguments =>
      rw [parseItems, readItem]
      cases decodeAction letter with
      | none => rfl
      | some action =>
          cases arguments with
          | nil => rfl
          | cons colon threadId =>
              by_cases other : colon = chr ':'
              · simp only [Option.bind_some, ne_eq, other, not_true_eq_false, if_false]
                cases parseEntry ftl (garbage rest.length) action curProc threadId <;> rfl
              · simp only [Option.bind_some, ne_eq, other, not_false_eq_true, if_true]

section Constructor

variable {ftl : Ftl} (reads : ftl.ReadsSigned) (garbage : Nat → UInt64) {curProc : UInt64}
  (small : curProc.toNat < 2 ^ 63)

include reads small

theorem readItem_of_item (garbage : UInt64) {text : Bytes} {item : Action ⊕ Entry}
    (is : Item curProc text item) : readItem ftl garbage curProc text = some item := by
  cases is with
  | default letter => rw [readItem, decodeAction_eq_some_iff.mpr letter, Option.bind_some]
  | thread letter numeral tid =>
      rw [readItem, decodeAction_eq_some_iff.mpr letter, Option.bind_some]
      simp only [ne_eq, not_true_eq_false, if_false, Option.map_some,
        parseEntry_of_item reads garbage small letter (.thread letter numeral tid)]
  | threadOf letter process thread pid tid every =>
      rw [readItem, decodeAction_eq_some_iff.mpr letter, Option.bind_some]
      simp only [ne_eq, not_true_eq_false, if_false, Option.map_some,
        parseEntry_of_item reads garbage small letter
          (.threadOf letter process thread pid tid every)]

theorem item_of_readItem (garbage : UInt64) {text : Bytes} (named : ¬ ReadAsProcess garbage text)
    {item : Action ⊕ Entry} (read : readItem ftl garbage curProc text = some item) :
    Item curProc text item := by
  cases text with
  | nil => cases read
  | cons letter arguments =>
      obtain ⟨action, decoded, read⟩ := Option.bind_eq_some_iff.mp read
      have is := decodeAction_eq_some_iff.mp decoded
      cases arguments with
      | nil =>
          cases read
          exact .default is
      | cons colon threadId =>
          by_cases other : colon = chr ':'
          · subst other
            simp only [ne_eq, not_true_eq_false, if_false] at read
            obtain ⟨entry, parsed, rfl⟩ := Option.map_eq_some_iff.mp read
            exact item_of_parseEntry reads garbage small is named parsed
          · simp [other] at read

/-- Items of the grammar are collected. -/
theorem parseItems_of_items {texts : List Bytes} {items : List (Action ⊕ Entry)}
    (are : List.Forall₂ (Item curProc) texts items) (defaultAction : Action)
    (actions : List Entry) :
    parseItems ftl garbage curProc defaultAction actions texts =
      collect defaultAction actions items := by
  induction are generalizing defaultAction actions with
  | nil => rfl
  | @cons text item texts items is _ later =>
      rw [parseItems_cons, readItem_of_item reads small _ is]
      cases item with
      | inl action =>
          rw [collect]
          dsimp only
          rw [later]
      | inr entry => exact later defaultAction (actions ++ [entry])

/-- Every item of an accepted list is one of the grammar, if none is read as a process. -/
theorem items_of_parseItems {texts : List Bytes} (named : ¬ SomeReadAsProcess garbage texts)
    {defaultAction : Action} {actions : List Entry}
    (valid : (parseItems ftl garbage curProc defaultAction actions texts).valid = true) :
    ∃ items, List.Forall₂ (Item curProc) texts items := by
  induction texts generalizing defaultAction actions with
  | nil => exact ⟨[], .nil⟩
  | cons text texts ih =>
      obtain ⟨here, after⟩ := not_or.mp named
      rw [parseItems_cons] at valid
      cases read : readItem ftl (garbage texts.length) curProc text with
      | none => simp [read] at valid
      | some item =>
          have is := item_of_readItem reads small _ here read
          rw [read] at valid
          suffices later : ∃ defaultAction actions,
              (parseItems ftl garbage curProc defaultAction actions texts).valid = true by
            obtain ⟨_, _, later⟩ := later
            obtain ⟨items, are⟩ := ih after later
            exact ⟨item :: items, .cons is are⟩
          cases item with
          | inl action =>
              by_cases second : defaultAction ≠ .none
              · simp [second] at valid
              · dsimp only at valid
                rw [if_neg second] at valid
                exact ⟨_, _, valid⟩
          | inr entry => exact ⟨_, _, valid⟩

end Constructor

/-- The collected list is valid when no second default comes; it then holds
the thread-specific items in their order. -/
theorem collect_eq (defaultAction : Action) (actions : List Entry) {items : List (Action ⊕ Entry)}
    (letters : ∀ action, .inl action ∈ items → action ≠ .none) :
    ((collect defaultAction actions items).valid = true ↔
      (items.filterMap Sum.getLeft?).length ≤ if defaultAction = .none then 1 else 0) ∧
    ((collect defaultAction actions items).valid = true →
      collect defaultAction actions items =
        ⟨true, (items.filterMap Sum.getLeft?).head?.getD defaultAction,
          actions ++ items.filterMap Sum.getRight?⟩) := by
  induction items generalizing defaultAction actions with
  | nil => simp [collect]
  | cons item items ih =>
      have later := fun defaultAction actions => ih defaultAction actions
        fun action member => letters action (List.mem_cons_of_mem _ member)
      cases item with
      | inl action =>
          rw [collect]
          by_cases second : defaultAction = .none
          · have given := letters action List.mem_cons_self
            obtain ⟨valid, same⟩ := later action actions
            rw [if_neg given] at valid
            simp only [second, ne_eq, not_true_eq_false, if_false, if_true, List.filterMap_cons,
              Sum.getLeft?_inl, Sum.getRight?_inl, List.length_cons, List.head?_cons,
              Option.getD_some]
            refine ⟨valid.trans (by omega), fun held => ?_⟩
            have none : items.filterMap Sum.getLeft? = [] :=
              List.length_eq_zero_iff.mp (Nat.le_zero.mp (valid.mp held))
            rw [same held, none, List.head?_nil, Option.getD_none]
          · simp [second]
      | inr entry =>
          rw [collect]
          obtain ⟨valid, same⟩ := later defaultAction (actions ++ [entry])
          simp only [List.filterMap_cons, Sum.getLeft?_inr, Sum.getRight?_inr]
          refine ⟨valid, fun held => ?_⟩
          rw [same held, List.append_assoc, List.singleton_append]

section Grammar

variable {curProc : UInt64} {texts : List Bytes} {items : List (Action ⊕ Entry)} {string : Bytes}

theorem items_clear (are : List.Forall₂ (Item curProc) texts items) :
    ∀ text ∈ texts, text ≠ [] ∧ chr ';' ∉ text := by
  induction are with
  | nil => simp
  | cons is _ ih => exact List.forall_mem_cons.mpr ⟨⟨is.ne_nil, is.clear⟩, ih⟩

theorem defaults_ne_none (are : List.Forall₂ (Item curProc) texts items) :
    ∀ action, .inl action ∈ items → action ≠ .none := by
  induction are with
  | nil => simp
  | cons is _ ih =>
      intro action member
      cases member with
      | head =>
          cases is with
          | default letter => exact letter.ne_none
      | tail _ later => exact ih action later

theorem items_not_readAsProcess (are : List.Forall₂ (Item curProc) texts items)
    (garbage : Nat → UInt64) : ¬ SomeReadAsProcess garbage texts := by
  induction are with
  | nil => exact id
  | cons is _ ih => exact not_or.mpr ⟨is.not_readAsProcess, ih⟩

/-- The items of a string of the grammar are those its semicolons cut out. -/
theorem Spells.cut (spells : Spells curProc string items) :
    string ≠ [] ∧ List.Forall₂ (Item curProc) (semicolonItems string) items := by
  obtain ⟨texts, are, joined⟩ := spells.texts
  have some : texts ≠ [] := by
    rintro rfl
    exact spells.ne_nil (List.forall₂_nil_left_iff.mp are)
  have clear := fun text member => (items_clear are text member).2
  have cut : Delimited.Cut (chr ';') string texts := by
    rcases joined with rfl | rfl
    · exact Delimited.cut_intercalate clear fun some =>
        (items_clear are _ (List.getLast_mem some)).1
    · exact Delimited.cut_intercalate_append clear some
  have same := semicolonItems_of_cut cut
  rw [same]
  refine ⟨?_, are⟩
  rintro rfl
  exact some same.symm

theorem spells_of_items (some : string ≠ [])
    (are : List.Forall₂ (Item curProc) (semicolonItems string) items)
    (one : (items.filterMap Sum.getLeft?).length ≤ 1) : Spells curProc string items := by
  have cut := semicolonItems_cut string
  have texts : semicolonItems string ≠ [] := by
    intro none
    rw [none] at cut
    cases cut
    exact some rfl
  refine ⟨⟨_, are, cut.joined texts⟩, ?_, one⟩
  rintro rfl
  exact texts (List.forall₂_nil_right_iff.mp are)

end Grammar

/-- What an entry speaks of. -/
def Matches (entry : Entry) (pid tid : UInt64) : Prop :=
  (entry.pid = pid ∨ entry.pid = kAll) ∧ (entry.tid = tid ∨ entry.tid = kAll)

/-- The action of the leftmost entry that speaks of the thread, else the default. -/
inductive Chosen (actions : List Entry) (defaultAction : Action) (pid tid : UInt64) : Action → Prop
  | entry {before after : List Entry} {entry : Entry} : actions = before ++ entry :: after →
      (∀ earlier ∈ before, ¬ Matches earlier pid tid) → Matches entry pid tid →
      Chosen actions defaultAction pid tid entry.action
  | default : (∀ entry ∈ actions, ¬ Matches entry pid tid) →
      Chosen actions defaultAction pid tid defaultAction

theorem contains_iff (entry : Entry) (pid tid : UInt64) :
    Entry.contains entry pid tid = true ↔ Matches entry pid tid := by
  rw [Entry.contains, decide_eq_true_eq, Matches]
  exact and_congr (or_congr eq_comm Iff.rfl) (or_congr eq_comm Iff.rfl)

theorem getAction_chosen (list : ThreadActionList) (pid tid : UInt64) :
    Chosen list.actions list.defaultAction pid tid (list.getAction pid tid) := by
  rw [getAction]
  cases found : list.actions.find? fun entry => Entry.contains entry pid tid with
  | none =>
      apply Chosen.default
      intro entry member matched
      exact List.find?_eq_none.mp found entry member ((contains_iff entry pid tid).mpr matched)
  | some entry =>
      obtain ⟨contains, before, after, split, earlier⟩ := List.find?_eq_some_iff_append.mp found
      apply Chosen.entry split
      · intro other member matched
        have no := earlier other member
        rw [(contains_iff other pid tid).mpr matched] at no
        exact Bool.false_ne_true no
      · exact (contains_iff entry pid tid).mp contains

section WholeProcess

variable {ftl : Ftl}

theorem parseEntry_process {garbage curProc : UInt64} {action : Action} {text : Bytes} {pid : Int64}
    (parsed : parseThreadId ftl garbage text = some ⟨true, pid, -1⟩) (positive : 0 < pid) :
    parseEntry ftl garbage action curProc text = some ⟨action, pid.toUInt64, kAll⟩ := by
  have sign : (0 : Int64).toInt < pid.toInt := Int64.lt_iff_toInt_lt.mp positive
  have zero : (0 : Int64).toInt = 0 := by decide
  have low : ¬ pid ≤ -2 := by
    rw [not_le_neg_two_iff, Int64.le_iff_toInt_le]
    have one : (-1 : Int64).toInt = -1 := by decide
    omega
  have ne : ∀ number : Int64, number.toInt ≤ 0 → pid ≠ number := by
    rintro number small rfl
    omega
  have all : ¬ (-1 : Int64) ≤ -2 := by decide
  simp [parseEntry, parsed, low, all, ne 0 (by decide), ne (-1) (by decide)]

/-- `c:pP` continues every thread of the process, if its thread id is read as one. -/
theorem ofString_process (garbage : Nat → UInt64) (curProc : UInt64) {process : Bytes} {pid : Int64}
    (numeral : Ftl.Numeral process pid) (positive : 0 < pid)
    (right : ∀ id, parseThreadId ftl (garbage 0) (chr 'p' :: process) = some id ↔
      Denotes (chr 'p' :: process) id) :
    ofString ftl garbage (ascii "c:p" ++ process) curProc =
      ⟨true, .none, [⟨.continue, pid.toUInt64, kAll⟩]⟩ := by
  have string : ascii "c:p" ++ process = chr 'c' :: chr ':' :: chr 'p' :: process := rfl
  have clear : chr ';' ∉ ascii "c:p" ++ process := by
    rw [List.mem_append, not_or]
    exact ⟨by decide, numeral.clear (by decide) (by decide)⟩
  have some : ascii "c:p" ++ process ≠ [] := by
    rw [string]
    exact List.cons_ne_nil _ _
  have parsed := (right ⟨true, pid, -1⟩).mpr (.process numeral)
  rw [ofString, if_neg some, semicolonItems_of_cut (.last some clear), string, parseItems_cons,
    readItem, decodeAction_eq_some_iff.mpr .continue, Option.bind_some]
  simp only [ne_eq, not_true_eq_false, if_false, List.length_nil,
    parseEntry_process parsed positive, Option.map_some]
  rfl

/-- `ParseThreadId` reads thread ids, exactly when cutting an id without a dot
at the index that was never set makes no difference; and then `c:pP` continues
every thread of the process. -/
theorem parseThreadId_reads_iff (reads : ftl.ReadsSigned) :
    (∀ (garbage : UInt64) (bytes : Bytes),
      (∀ id, parseThreadId ftl garbage bytes = some id ↔ Denotes bytes id) ↔
        ∀ rest, bytes = chr 'p' :: rest → chr '.' ∉ rest →
          ∀ pid, Ftl.Numeral (rest.take (garbage - 1).toNat) pid ↔ Ftl.Numeral rest pid) ∧
    ∀ (garbage : Nat → UInt64) (curProc : UInt64) (process : Bytes) (pid : Int64),
      Ftl.Numeral process pid → 0 < pid →
      (∀ id, parseThreadId ftl (garbage 0) (chr 'p' :: process) = some id ↔
        Denotes (chr 'p' :: process) id) →
      ∀ tid, (ofString ftl garbage (ascii "c:p" ++ process) curProc).getAction pid.toUInt64 tid =
        .continue := by
  constructor
  · exact parseThreadId_denotes reads
  · intro garbage curProc process pid numeral positive right tid
    rw [ofString_process garbage curProc numeral positive right, getAction]
    simp [Entry.contains]

theorem whole_process_read :
    (∀ id, parseThreadId Ftl.standard 0 (ascii "p1234") = some id ↔ Denotes (ascii "p1234") id) ∧
      ∀ tid, (ofString Ftl.standard (fun _ => 0) (ascii "c:p1234") 9).getAction 0x1234 tid =
        .continue := by
  have numeral : Ftl.Numeral (ascii "1234") 0x1234 := (Ftl.standard_readsSigned _ _).mp (by decide)
  have right := parseThreadId_reads_iff Ftl.standard_readsSigned
  have read : ∀ id, parseThreadId Ftl.standard 0 (ascii "p1234") = some id ↔
      Denotes (ascii "p1234") id := by
    apply (right.1 0 (ascii "p1234")).mpr
    intro rest text _ pid
    obtain rfl : ascii "1234" = rest := (List.cons.inj text).2
    have whole : (ascii "1234").take ((0 : UInt64) - 1).toNat = ascii "1234" :=
      List.take_of_length_le (by decide)
    rw [whole]
  exact ⟨read, right.2 (fun _ => 0) 9 (ascii "1234") 0x1234 numeral (by decide) read⟩

/-- With 2 where the index is, `p1234` is process 1, and a list that is to
continue process 0x1234 says nothing about its threads. -/
theorem whole_process_truncated :
    parseThreadId Ftl.standard 2 (ascii "p1234") = some ⟨true, 1, -1⟩ ∧
      Denotes (ascii "p1234") ⟨true, 0x1234, -1⟩ ∧
      (ofString Ftl.standard (fun _ => 2) (ascii "c:p1234") 0x1234).getAction 0x1234 9 = .none := by
  refine ⟨by decide, ?_, by decide⟩
  have numeral : Ftl.Numeral (ascii "1234") 0x1234 := (Ftl.standard_readsSigned _ _).mp (by decide)
  exact .process numeral

end WholeProcess

end ThreadActionList

end Gdbserver
