import Mathlib.Data.List.Forall2
import RowAudit.Proofs.Text.LowerCase
import RowAudit.Proofs.Workbook.Loading

/-!
The sheet of a role. Of the sheets with names that the role wants it is the one
with the name wanted most, and of those with equally wanted names the first. So
sheets with other names do not matter, and of the names only the letters and
digits do, in lower case.
-/

namespace RowAudit

namespace SheetRole

def Wants (role : SheetRole) (name : String) : Prop :=
  Sheet.key name ∈ role.keys

instance (role : SheetRole) (name : String) : Decidable (role.Wants name) :=
  inferInstanceAs (Decidable (_ ∈ _))

def rank (role : SheetRole) (name : String) : Nat :=
  role.keys.idxOf (Sheet.key name)

theorem rank_lt_length_iff {role : SheetRole} {name : String} :
    role.rank name < role.keys.length ↔ role.Wants name :=
  List.idxOf_lt_length_iff

theorem wants_congr {role : SheetRole} {name other : String}
    (same : role.rank name = role.rank other) :
    role.Wants name ↔ role.Wants other := by
  rw [← rank_lt_length_iff, ← rank_lt_length_iff, same]

theorem wants_apart {name : String} (mapped : dataMap.Wants name) :
    ¬ conditionRules.Wants name := by
  have apart : ∀ key ∈ dataMap.keys, key ∉ conditionRules.keys := by decide
  exact apart (Sheet.key name) mapped

theorem key_of_mem_keys {role : SheetRole} {key : String}
    (member : key ∈ role.keys) : Sheet.key key = key := by
  have keyed : ∀ key ∈ role.keys, Sheet.key key = key := by
    cases role <;> decide +kernel
  exact keyed key member

theorem plain_of_mem_keys {role : SheetRole} {key : String}
    (member : key ∈ role.keys) {c : Char} (here : c ∈ key.toList) :
    c.toNat < 128 ∧ c ≠ 'k' := by
  have plain : (role.keys.all fun key => key.toList.all fun c =>
      decide (c.toNat < 128 ∧ c ≠ 'k')) = true := by
    cases role <;> decide
  exact of_decide_eq_true
    (List.all_eq_true.mp (List.all_eq_true.mp plain key member) c here)

end SheetRole

namespace Sheet

def letters (name : String) : List Char :=
  name.toList.filter Text.isAlphanumeric

def BeyondAscii (name : String) : Prop :=
  ∃ c ∈ letters name, 128 ≤ c.toNat

instance (name : String) : Decidable (BeyondAscii name) :=
  List.decidableBEx (fun c : Char => 128 ≤ c.toNat) (letters name)

variable {name other : String} {role : SheetRole}

theorem toList_key (name : String) :
    (key name).toList = Text.lowerEach (letters name) :=
  String.toList_ofList

theorem not_wants_of_beyondAscii (beyond : BeyondAscii name) :
    ¬ role.Wants name := by
  intro wanted
  obtain ⟨c, member, high⟩ := beyond
  obtain ⟨d, image, unplain⟩ := Text.exists_mem_lowerChar_beyondAscii high
  have inKey : d ∈ (key name).toList := by
    rw [toList_key]
    exact List.mem_flatMap.mpr ⟨c, member, image⟩
  have plain := SheetRole.plain_of_mem_keys wanted inKey
  rcases unplain with beyondToo | isK
  · omega
  · exact plain.2 isK

end Sheet

/-- A notion of letter case: what a letter is compared as. For an ASCII letter
there is but one, its lower-case form. -/
structure LetterCase where
  fold : Char → List Char
  ascii : ∀ c, c.toNat < 128 → fold c = Text.lowerChar c

namespace LetterCase

/-- Whether two names are one but for case, spaces and punctuation. -/
def Alike (letterCase : LetterCase) (name other : String) : Prop :=
  ((Sheet.letters name).flatMap letterCase.fold).filter Text.isAlphanumeric =
    ((Sheet.letters other).flatMap letterCase.fold).filter Text.isAlphanumeric

instance (letterCase : LetterCase) (name other : String) :
    Decidable (letterCase.Alike name other) :=
  inferInstanceAs (Decidable (_ = _))

variable {letterCase : LetterCase} {name other : String}

theorem isAlphanumeric_of_mem_lowerChar {c : Char} (ascii : c.toNat < 128)
    (letter : Text.isAlphanumeric c = true) {d : Char}
    (member : d ∈ Text.lowerChar c) : Text.isAlphanumeric d = true := by
  have all : ∀ code < 128, Text.isAlphanumeric (Char.ofNat code) = true →
      (Text.lowerChar (Char.ofNat code)).all Text.isAlphanumeric = true := by
    decide +kernel
  have lower := Text.forall_ascii
    (p := fun c => Text.isAlphanumeric c = true →
      (Text.lowerChar c).all Text.isAlphanumeric = true) all c ascii letter
  exact List.all_eq_true.mp lower d member

/-- In ASCII, every notion of case compares names by their keys. -/
theorem folded_eq_key (letterCase : LetterCase)
    (plain : ¬ Sheet.BeyondAscii name) :
    ((Sheet.letters name).flatMap letterCase.fold).filter
        Text.isAlphanumeric = (Sheet.key name).toList := by
  have ascii : ∀ c ∈ Sheet.letters name, c.toNat < 128 :=
    fun c member => Nat.lt_of_not_le fun high => plain ⟨c, member, high⟩
  have folded : (Sheet.letters name).flatMap letterCase.fold =
      Text.lowerEach (Sheet.letters name) :=
    List.flatMap_congr fun c member => letterCase.ascii c (ascii c member)
  rw [folded, Sheet.toList_key, List.filter_eq_self]
  intro d member
  obtain ⟨c, among, image⟩ := List.mem_flatMap.mp member
  exact isAlphanumeric_of_mem_lowerChar (ascii c among)
    (List.mem_filter.mp among).2 image

theorem Alike.key_eq (alike : letterCase.Alike name other)
    (plain : ¬ Sheet.BeyondAscii name)
    (otherPlain : ¬ Sheet.BeyondAscii other) :
    Sheet.key name = Sheet.key other := by
  rw [Alike, folded_eq_key letterCase plain,
    folded_eq_key letterCase otherPlain] at alike
  exact String.toList_inj.mp alike

end LetterCase

namespace SheetRole

variable {role : SheetRole} {name other : String}

/-- Whether a role wants one of two names and the other has a letter beyond
ASCII. -/
def TellsApart (role : SheetRole) (name other : String) : Prop :=
  role.Wants name ∧ Sheet.BeyondAscii other ∨
    role.Wants other ∧ Sheet.BeyondAscii name

instance (role : SheetRole) (name other : String) :
    Decidable (role.TellsApart name other) :=
  inferInstanceAs (Decidable (_ ∨ _))

theorem rank_eq_length_of_not_wants (unwanted : ¬ role.Wants name) :
    role.rank name = role.keys.length :=
  List.idxOf_eq_length_iff.mpr unwanted

/-- Names that are one but for case, spaces and punctuation are wanted as much,
unless one of them is wanted and the other goes beyond ASCII. -/
theorem rank_eq_iff {letterCase : LetterCase}
    (alike : letterCase.Alike name other) :
    role.rank name = role.rank other ↔ ¬ role.TellsApart name other := by
  constructor
  · intro same apart
    rcases apart with ⟨wanted, beyond⟩ | ⟨wanted, beyond⟩
    · exact Sheet.not_wants_of_beyondAscii beyond ((wants_congr same).mp wanted)
    · exact Sheet.not_wants_of_beyondAscii beyond
        ((wants_congr same).mpr wanted)
  · intro together
    rw [TellsApart, not_or, not_and, not_and] at together
    have plain {name : String} (wanted : role.Wants name) :
        ¬ Sheet.BeyondAscii name :=
      fun beyond => Sheet.not_wants_of_beyondAscii beyond wanted
    by_cases wanted : role.Wants name
    · rw [rank, rank, alike.key_eq (plain wanted) (together.1 wanted)]
    · by_cases otherWanted : role.Wants other
      · rw [rank, rank,
          alike.key_eq (together.2 otherWanted) (plain otherWanted)]
      · rw [rank_eq_length_of_not_wants wanted,
          rank_eq_length_of_not_wants otherWanted]

end SheetRole

namespace Workbook

variable {workbook : Workbook} {role : SheetRole} {position : Nat}
  {sheet : Sheet}

/-- The sheet that a role wants most, and of those that it wants as much the
first. -/
structure Chosen (workbook : Workbook) (role : SheetRole) (position : Nat)
    (sheet : Sheet) : Prop where
  here : workbook.sheets[position]? = some sheet
  wanted : role.Wants sheet.name
  least : ∀ (other : Nat) (rival : Sheet),
    workbook.sheets[other]? = some rival → role.Wants rival.name →
    role.rank sheet.name < role.rank rival.name ∨
      role.rank sheet.name = role.rank rival.name ∧ position ≤ other

theorem Chosen.unique {other : Nat} {rival : Sheet}
    (left : workbook.Chosen role position sheet)
    (right : workbook.Chosen role other rival) :
    position = other ∧ sheet = rival := by
  have before := left.least other rival right.here right.wanted
  have after := right.least position sheet left.here left.wanted
  have same : position = other := by omega
  subst same
  exact ⟨rfl, Option.some.inj (left.here.symm.trans right.here)⟩

theorem sheet?_eq_some {name : String}
    (found : workbook.sheet? name = some sheet) :
    Sheet.key sheet.name = Sheet.key name ∧
      ∃ position, workbook.sheets[position]? = some sheet ∧
        ∀ (other : Nat) (rival : Sheet), workbook.sheets[other]? = some rival →
          Sheet.key rival.name = Sheet.key name → position ≤ other := by
  obtain ⟨named, position, within, here, earlier⟩ :=
    List.find?_eq_some_iff_getElem.mp found
  refine ⟨of_decide_eq_true named, position,
    List.getElem?_eq_some_iff.mpr ⟨within, here⟩, ?_⟩
  intro other rival held rivalNamed
  refine Nat.le_of_not_lt fun before => ?_
  obtain ⟨_, rfl⟩ := List.getElem?_eq_some_iff.mp held
  have different := earlier other before
  rw [decide_eq_true rivalNamed] at different
  cases different

theorem sheet?_eq_none_iff {name : String} :
    workbook.sheet? name = none ↔
      ∀ sheet ∈ workbook.sheets, Sheet.key sheet.name ≠ Sheet.key name := by
  simp [sheet?, List.find?_eq_none]

theorem role_eq_ok_iff_findSome? :
    workbook.role role = .ok sheet ↔
      role.keys.findSome? workbook.sheet? = some sheet := by
  rw [Workbook.role]
  cases role.keys.findSome? workbook.sheet? with
  | none => simp
  | some found => simp

theorem exists_chosen_of_role (found : workbook.role role = .ok sheet) :
    ∃ position, workbook.Chosen role position sheet := by
  obtain ⟨before, key, after, split, held, passed⟩ :=
    List.findSome?_eq_some_iff.mp (role_eq_ok_iff_findSome?.mp found)
  have inKeys : key ∈ role.keys :=
    split ▸ List.mem_append_right _ List.mem_cons_self
  obtain ⟨named, position, here, first⟩ := sheet?_eq_some held
  rw [SheetRole.key_of_mem_keys inKeys] at named first
  -- No sheet stands under an earlier key, so the ranks that occur begin with
  -- that of `key`.
  have notBefore (other : Sheet) (member : other ∈ workbook.sheets) :
      Sheet.key other.name ∉ before := by
    intro inBefore
    have wanted : Sheet.key other.name ∈ role.keys :=
      split ▸ List.mem_append_left _ inBefore
    exact sheet?_eq_none_iff.mp (passed _ inBefore) other member
      (SheetRole.key_of_mem_keys wanted).symm
  have rank_eq (other : Sheet) (member : other ∈ workbook.sheets) :
      role.rank other.name =
        before.length + (key :: after).idxOf (Sheet.key other.name) := by
    rw [SheetRole.rank, split,
      List.idxOf_append_of_notMem (notBefore other member)]
  have own : role.rank sheet.name = before.length := by
    rw [rank_eq sheet (List.mem_of_getElem? here), named, List.idxOf_cons_self,
      Nat.add_zero]
  refine ⟨position, here, ?_, ?_⟩
  · rw [SheetRole.Wants, split, named]
    exact List.mem_append_right _ List.mem_cons_self
  · intro other rival rivalHere _
    have rivalRank := rank_eq rival (List.mem_of_getElem? rivalHere)
    by_cases same : Sheet.key rival.name = key
    · refine .inr ⟨?_, first other rival rivalHere same⟩
      rw [own, rivalRank, same, List.idxOf_cons_self, Nat.add_zero]
    · rw [List.idxOf_cons_ne _ fun equal => same equal.symm] at rivalRank
      exact .inl (by omega)

theorem role_eq_error_iff {fault : Fault} :
    workbook.role role = .error fault ↔
      fault = .missingSheet role ∧ ∀ sheet ∈ workbook.sheets,
        ¬ role.Wants sheet.name := by
  have none_iff : role.keys.findSome? workbook.sheet? = none ↔
      ∀ sheet ∈ workbook.sheets, ¬ role.Wants sheet.name := by
    simp only [List.findSome?_eq_none_iff, sheet?_eq_none_iff]
    constructor
    · intro unnamed sheet member wanted
      exact unnamed _ wanted sheet member
        (SheetRole.key_of_mem_keys wanted).symm
    · intro unwanted key member sheet held named
      rw [SheetRole.key_of_mem_keys member] at named
      subst named
      exact unwanted sheet held member
  rw [← none_iff, Workbook.role]
  cases role.keys.findSome? workbook.sheet? with
  | none => simp [eq_comm]
  | some found => simp

theorem role_eq_ok_iff :
    workbook.role role = .ok sheet ↔ ∃ position,
      workbook.Chosen role position sheet := by
  constructor
  · exact exists_chosen_of_role
  · intro found
    obtain ⟨position, chosen⟩ := found
    cases outcome : workbook.role role with
    | error fault =>
        exact absurd chosen.wanted
          ((role_eq_error_iff.mp outcome).2 sheet
            (List.mem_of_getElem? chosen.here))
    | ok other =>
        obtain ⟨otherPosition, otherChosen⟩ := exists_chosen_of_role outcome
        rw [(chosen.unique otherChosen).2]

/-- The same sheets in their order, with others put between them that the role
does not want. -/
inductive Interspersed (role : SheetRole) : List Sheet → List Sheet → Prop where
  | nil : Interspersed role [] []
  | kept (sheet : Sheet) {sheets larger : List Sheet}
      (rest : Interspersed role sheets larger) :
      Interspersed role (sheet :: sheets) (sheet :: larger)
  | inserted (other : Sheet) (unwanted : ¬ role.Wants other.name)
      {sheets larger : List Sheet}
      (rest : Interspersed role sheets larger) :
      Interspersed role sheets (other :: larger)

theorem Interspersed.find? {sheets larger : List Sheet}
    (interspersed : Interspersed role sheets larger) {key : String}
    (member : key ∈ role.keys) :
    larger.find? (fun sheet => Sheet.key sheet.name = key) =
      sheets.find? fun sheet => Sheet.key sheet.name = key := by
  induction interspersed with
  | nil => rfl
  | kept sheet _ ih => rw [List.find?_cons, List.find?_cons, ih]
  | inserted other unwanted _ ih =>
      have different : Sheet.key other.name ≠ key := by
        intro same
        subst same
        exact unwanted member
      rw [List.find?_cons, decide_eq_false different, ih]

theorem role_of_interspersed {larger : Workbook}
    (interspersed : Interspersed role workbook.sheets larger.sheets) :
    larger.role role = workbook.role role := by
  have same : ∀ key ∈ role.keys, larger.sheet? key = workbook.sheet? key := by
    intro key member
    simp only [sheet?, SheetRole.key_of_mem_keys member]
    exact interspersed.find? member
  rw [Workbook.role, Workbook.role, ← List.head?_filterMap,
    ← List.head?_filterMap, List.filterMap_congr same]

def ranks (workbook : Workbook) (role : SheetRole) : List Nat :=
  workbook.sheets.map fun sheet => role.rank sheet.name

theorem Chosen.of_ranks {other : Workbook}
    (same : other.ranks role = workbook.ranks role)
    (chosen : workbook.Chosen role position sheet) :
    ∃ changed, other.Chosen role position changed := by
  have counterpart {position : Nat} {sheet : Sheet} {left right : Workbook}
      (same : left.ranks role = right.ranks role)
      (here : right.sheets[position]? = some sheet) :
      ∃ changed, left.sheets[position]? = some changed ∧
        role.rank changed.name = role.rank sheet.name := by
    have ranked := congrArg (fun ranks : List Nat => ranks[position]?) same
    simp only [ranks, List.getElem?_map, here, Option.map_some] at ranked
    exact Option.map_eq_some_iff.mp ranked
  obtain ⟨changed, here, rank⟩ := counterpart same chosen.here
  refine ⟨changed, here, (SheetRole.wants_congr rank).mpr chosen.wanted, ?_⟩
  intro place rival rivalHere rivalWanted
  obtain ⟨original, originalHere, originalRank⟩ :=
    counterpart same.symm rivalHere
  have least :=
    chosen.least place original originalHere
      ((SheetRole.wants_congr originalRank).mpr rivalWanted)
  rwa [originalRank, ← rank] at least

/-- Whether two workbooks have the sheet of a role in the same place, or none
of them has it. -/
def SameChoice (role : SheetRole) (workbook other : Workbook) : Prop :=
  ∀ position, (∃ sheet, workbook.Chosen role position sheet) ↔
    ∃ sheet, other.Chosen role position sheet

theorem sameChoice_of_ranks {other : Workbook}
    (same : other.ranks role = workbook.ranks role) :
    SameChoice role workbook other :=
  fun _ => ⟨fun ⟨_, chosen⟩ => chosen.of_ranks same,
    fun ⟨_, chosen⟩ => chosen.of_ranks same.symm⟩

/-- A sheet with a name that is the same but for case, spaces and punctuation,
where this moves no letter into ASCII or out of it. -/
def Renamed (letterCase : LetterCase) (role : SheetRole)
    (sheet changed : Sheet) : Prop :=
  letterCase.Alike sheet.name changed.name ∧
    ¬ role.TellsApart sheet.name changed.name

theorem ranks_of_renamed {letterCase : LetterCase} {other : Workbook}
    (renamed : List.Forall₂ (Renamed letterCase role) workbook.sheets
      other.sheets) : other.ranks role = workbook.ranks role := by
  rw [ranks, ranks, ← List.forall₂_eq_eq_eq, List.forall₂_map_left_iff,
    List.forall₂_map_right_iff]
  exact renamed.flip.imp fun _ _ both =>
    ((SheetRole.rank_eq_iff both.1).mpr both.2).symm

theorem ranks_of_sameLetters {other : Workbook}
    (same : List.Forall₂
      (fun sheet changed : Sheet =>
        Sheet.letters sheet.name = Sheet.letters changed.name)
      workbook.sheets other.sheets) : other.ranks role =
        workbook.ranks role := by
  rw [ranks, ranks, ← List.forall₂_eq_eq_eq, List.forall₂_map_left_iff,
    List.forall₂_map_right_iff]
  refine same.flip.imp fun changed sheet letters => ?_
  have key : Sheet.key sheet.name = Sheet.key changed.name :=
    congrArg (fun letters => String.ofList (Text.lowerEach letters)) letters
  rw [SheetRole.rank, SheetRole.rank, key]

theorem chosen_single {sheet : Sheet} :
    (∃ chosen, (ofSheets [sheet]).Chosen role 0 chosen) ↔
      role.Wants sheet.name := by
  constructor
  · intro found
    obtain ⟨chosen, here, wanted, -⟩ := found
    obtain rfl := Option.some.inj here
    exact wanted
  · intro wanted
    refine ⟨sheet, rfl, wanted, ?_⟩
    intro other rival held _
    match other, held with
    | 0, held =>
        obtain rfl := Option.some.inj held
        exact .inr ⟨rfl, Nat.le_refl 0⟩

/-- Another case, other spaces and other punctuation leave the choice as it is
in every workbook, unless one of the names is wanted and the other goes beyond
ASCII. -/
theorem sameChoice_iff {letterCase : LetterCase} {sheet changed : Sheet}
    (alike : letterCase.Alike sheet.name changed.name) :
    (∀ front back, SameChoice role (ofSheets (front ++ sheet :: back))
        (ofSheets (front ++ changed :: back))) ↔
      ¬ role.TellsApart sheet.name changed.name := by
  constructor
  · intro same apart
    have wants : role.Wants sheet.name ↔ role.Wants changed.name := by
      rw [← chosen_single, ← chosen_single]
      exact same [] [] 0
    rcases apart with ⟨wanted, beyond⟩ | ⟨wanted, beyond⟩
    · exact Sheet.not_wants_of_beyondAscii beyond (wants.mp wanted)
    · exact Sheet.not_wants_of_beyondAscii beyond (wants.mpr wanted)
  · intro together front back
    apply sameChoice_of_ranks
    have rank := (SheetRole.rank_eq_iff alike).mpr together
    simp only [ranks, ofSheets, List.map_append, List.map_cons, rank]

/-- How a workbook's sheet for a role is determined, and what leaves the choice
as it is. -/
structure Determines (workbook : Workbook) (role : SheetRole) : Prop where
  found : ∀ sheet, workbook.role role = .ok sheet ↔
    ∃ position, workbook.Chosen role position sheet
  missing : ∀ fault, workbook.role role = .error fault ↔
    fault = .missingSheet role ∧
      ∀ sheet ∈ workbook.sheets, ¬ role.Wants sheet.name
  inserted : ∀ larger : Workbook,
    Interspersed role workbook.sheets larger.sheets →
      larger.role role = workbook.role role
  repunctuated : ∀ other : Workbook,
    List.Forall₂
      (fun sheet changed : Sheet =>
        Sheet.letters sheet.name = Sheet.letters changed.name)
      workbook.sheets other.sheets → SameChoice role workbook other
  renamed : ∀ (letterCase : LetterCase) (other : Workbook),
    List.Forall₂ (Renamed letterCase role) workbook.sheets other.sheets →
      SameChoice role workbook other

theorem determines (workbook : Workbook) (role : SheetRole) :
    workbook.Determines role where
  found _ := role_eq_ok_iff
  missing _ := role_eq_error_iff
  inserted _ := role_of_interspersed
  repunctuated _ same := sameChoice_of_ranks (ranks_of_sameLetters same)
  renamed _ _ renamed := sameChoice_of_ranks (ranks_of_renamed renamed)

theorem roles_apart {dataMap rules : Sheet}
    (mapped : workbook.role .dataMap = .ok dataMap)
    (ruled : workbook.role .conditionRules = .ok rules) : dataMap ≠ rules := by
  obtain ⟨_, mapChosen⟩ := role_eq_ok_iff.mp mapped
  obtain ⟨_, rulesChosen⟩ := role_eq_ok_iff.mp ruled
  intro same
  exact SheetRole.wants_apart mapChosen.wanted (same ▸ rulesChosen.wanted)

/--
A directory gives one workbook or one fault, in whatever order it is listed; and
a workbook has one sheet for each role or lacks it, whatever other sheets it
has. How the names are spelt matters just where one of two spellings is wanted
and the other has a letter beyond ASCII.
-/
theorem ruleSheets_determined (reading : Reading) (directory : String)
    (entries : List DirectoryEntry) (workbook : Workbook) (role : SheetRole) :
    ((entries.map DirectoryEntry.name).Nodup →
      LoadsByName reading directory entries) ∧
    workbook.Determines role ∧
    (∀ dataMap rules, workbook.role .dataMap = .ok dataMap →
      workbook.role .conditionRules = .ok rules → dataMap ≠ rules) ∧
    ∀ (letterCase : LetterCase) (sheet changed : Sheet),
      letterCase.Alike sheet.name changed.name →
      ((∀ front back, SameChoice role (ofSheets (front ++ sheet :: back))
          (ofSheets (front ++ changed :: back))) ↔
        ¬ role.TellsApart sheet.name changed.name) :=
  ⟨loadsByName reading directory, workbook.determines role,
    fun _ _ => roles_apart, fun _ _ _ => sameChoice_iff⟩

/-- The case of letters in which a long s is an s. -/
def longCase : LetterCase where
  fold c := if c = 'ſ' then ['s'] else Text.lowerChar c
  ascii c plain := by
    refine if_neg fun same => ?_
    subst same
    exact absurd plain (by decide)

def twoMaps : Workbook :=
  ofSheets [⟨"Map", ["A"], []⟩, ⟨"data map", ["B"], []⟩, ⟨"Rules", ["No"], []⟩]

def twoMapsRenamed : Workbook :=
  ofSheets
    [⟨"m.a.p", ["A"], []⟩, ⟨"DATA_MAP!", ["B"], []⟩, ⟨" ruleſ", ["No"], []⟩]

def twoMapsWithNotes : Workbook :=
  ofSheets
    [⟨"Notes", [], []⟩, ⟨"Map", ["A"], []⟩, ⟨"data map", ["B"], []⟩,
      ⟨"ruleſ", [], []⟩, ⟨"Rules", ["No"], []⟩]

def lockedMap : List DirectoryEntry :=
  [⟨"Rules.csv".toUTF8.toList, some (.ok [])⟩,
    ⟨"Map.csv".toUTF8.toList,
      some (.error (.other "Permission denied (os error 13)"))⟩]

theorem firstRefused_lockedMap :
    FirstRefused {} "rules" lockedMap
      ⟨"Map.csv".toUTF8.toList,
        .error (.other "Permission denied (os error 13)")⟩
      (.unreadable "rules/Map.csv"
        (.other "Permission denied (os error 13)")) where
  listed := by
    refine ⟨_, List.mem_cons_of_mem _ List.mem_cons_self, ?_⟩
    have named : (splitFileName "Map.csv".toUTF8.toList).2 >>=
        Text.decode? = some "csv" := by
      decide +kernel
    exact sheetFile?_of_extension named (by decide +kernel) _
  refused := by
    have path : FilePath.within "rules"
        (Text.decodeLossy "Map.csv".toUTF8.toList) = "rules/Map.csv" := by
      decide +kernel
    rw [readListed, path]
  earlier := by
    intro other listed before
    obtain ⟨entry, member, isFile⟩ := listed
    have notBefore : ∀ entry ∈ lockedMap,
        ¬ entry.name < "Map.csv".toUTF8.toList := by
      decide +kernel
    rw [name_of_sheetFile? isFile] at before
    exact absurd before (notBefore entry member)

theorem ruleSheets_determined_two_maps :
    (lockedMap.map DirectoryEntry.name).Nodup ∧
    (∀ listing, listing.Perm lockedMap →
      ofDirectory {} "rules" listing =
        .error (.unreadable "rules/Map.csv"
          (.other "Permission denied (os error 13)"))) ∧
    twoMaps.role .dataMap = .ok ⟨"data map", ["B"], []⟩ ∧
    twoMaps.role .conditionRules = .ok ⟨"Rules", ["No"], []⟩ ∧
    (⟨"data map", ["B"], []⟩ : Sheet) ≠ ⟨"Rules", ["No"], []⟩ ∧
    twoMapsWithNotes.role .conditionRules = twoMaps.role .conditionRules ∧
    SameChoice .dataMap twoMaps twoMapsRenamed ∧
    longCase.Alike "Rules" " ruleſ" ∧
    ¬ ∀ front back, SameChoice .conditionRules
      (ofSheets (front ++ ⟨"Rules", ["No"], []⟩ :: back))
      (ofSheets (front ++ ⟨" ruleſ", ["No"], []⟩ :: back)) := by
  have mapped : twoMaps.role .dataMap = .ok ⟨"data map", ["B"], []⟩ := by
    decide +kernel
  have ruled : twoMaps.role .conditionRules = .ok ⟨"Rules", ["No"], []⟩ := by
    decide +kernel
  have distinct : (lockedMap.map DirectoryEntry.name).Nodup := by
    decide +kernel
  have interspersed : Interspersed .conditionRules twoMaps.sheets
      twoMapsWithNotes.sheets := by
    have notes : ¬ SheetRole.conditionRules.Wants "Notes" := by decide +kernel
    have longS : ¬ SheetRole.conditionRules.Wants "ruleſ" := by decide +kernel
    exact .inserted ⟨"Notes", [], []⟩ notes
      (.kept _ (.kept _ (.inserted ⟨"ruleſ", [], []⟩ longS (.kept _ .nil))))
  have spelt : List.Forall₂ (Renamed longCase .dataMap) twoMaps.sheets
      twoMapsRenamed.sheets :=
    .cons ⟨by decide +kernel, by decide +kernel⟩
      (.cons ⟨by decide +kernel, by decide +kernel⟩
        (.cons ⟨by decide +kernel, by decide +kernel⟩ .nil))
  have alike : longCase.Alike "Rules" " ruleſ" := by decide +kernel
  have together : SheetRole.conditionRules.TellsApart "Rules" " ruleſ" := by
    decide +kernel
  obtain ⟨loads, maps, apart, -⟩ :=
    ruleSheets_determined {} "rules" lockedMap twoMaps .dataMap
  obtain ⟨-, rules, -, interchangeable⟩ :=
    ruleSheets_determined {} "rules" lockedMap twoMaps .conditionRules
  refine ⟨distinct, ?_, mapped, ruled, apart _ _ mapped ruled,
    rules.inserted _ interspersed, maps.renamed longCase _ spelt, alike, ?_⟩
  · intro listing perm
    rw [(loads distinct).anyOrder listing perm]
    exact ((loads distinct).refused _).mpr ⟨_, firstRefused_lockedMap⟩
  · intro same
    exact (interchangeable longCase ⟨"Rules", ["No"], []⟩
      ⟨" ruleſ", ["No"], []⟩ alike).mp same together

end Workbook

end RowAudit
