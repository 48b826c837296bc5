import RowAudit.Text.Blank
import RowAudit.Text.Lowercase

/-!
Lower-casing a character settles it: what comes out is in lower case, is no
white space, and is no ASCII character up to the grave accent. The table is
checked run by run, since the images of a run are either clear of another run
altogether or fall between its capitals.
-/

namespace RowAudit.Text

namespace CaseRun

def lastImage (run : CaseRun) : Nat :=
  run.image + (run.last - run.first)

def clearOf (run : CaseRun) (first last : Nat) : Bool :=
  Nat.blt run.lastImage first || Nat.blt last run.image

def betweenCapitals (run other : CaseRun) : Bool :=
  Nat.beq other.stride 2 &&
    (Nat.beq run.stride 2 || Nat.beq run.first run.last) &&
    Nat.beq ((run.image + other.first) % 2) 1

def settles (run : CaseRun) : Bool :=
  caseRuns.all (fun other =>
    run.clearOf other.first other.last || run.betweenCapitals other) &&
    blanks.all (fun range => run.clearOf range.1 range.2) &&
    run.clearOf 0 0x60 && run.clearOf 0x130 0x130 &&
    run.clearOf 0xD800 0xDFFF &&
    Nat.blt run.lastImage 0x110000

theorem caseRuns_settle : ∀ run ∈ caseRuns, run.settles = true := by
  decide +kernel

structure Maps (run : CaseRun) (code image : Nat) : Prop where
  first_le : run.first ≤ code
  le_last : code ≤ run.last
  onStride : (code - run.first) % run.stride = 0
  image_eq : image = run.image + (code - run.first)

theorem exists_maps_of_lookup {runs : List CaseRun} {code image : Nat}
    (found : lookup runs code = some image) :
    ∃ run ∈ runs, run.Maps code image := by
  induction runs with
  | nil => cases found
  | cons run rest ih =>
      simp only [lookup] at found
      split at found
      · cases found
      · next reached =>
          split at found
          · next within =>
              refine ⟨run, List.mem_cons_self, by omega, within.1, within.2, ?_⟩
              exact (Option.some.inj found).symm
          · obtain ⟨other, member, maps⟩ := ih found
            exact ⟨other, List.mem_cons_of_mem _ member, maps⟩

theorem lookup_eq_none {runs : List CaseRun} {code : Nat}
    (missed : ∀ run ∈ runs, run.first ≤ code → code ≤ run.last →
      (code - run.first) % run.stride ≠ 0) : lookup runs code = none := by
  induction runs with
  | nil => rfl
  | cons run rest ih =>
      simp only [lookup]
      split
      · rfl
      · next reached =>
          have here := missed run List.mem_cons_self (by omega)
          rw [if_neg fun within => here within.1 within.2]
          exact ih fun other member =>
            missed other (List.mem_cons_of_mem _ member)

variable {run other : CaseRun} {code image : Nat}

theorem Maps.not_mem_of_clearOf (maps : run.Maps code image) {first last : Nat}
    (clear : run.clearOf first last = true) : image < first ∨ last < image := by
  have := maps.first_le
  have := maps.le_last
  have := maps.image_eq
  simp only [clearOf, lastImage, Bool.or_eq_true, Nat.blt_eq] at clear
  omega

theorem Maps.not_mem_of_betweenCapitals (maps : run.Maps code image)
    (between : run.betweenCapitals other = true)
    (reached : other.first ≤ image) :
    (image - other.first) % other.stride ≠ 0 := by
  obtain ⟨first_le, le_last, onStride, image_eq⟩ := maps
  simp only [betweenCapitals, Bool.and_eq_true, Bool.or_eq_true, Nat.beq_eq]
    at between
  obtain ⟨⟨twoStep, even⟩, parity⟩ := between
  rw [twoStep]
  have evenOffset : (code - run.first) % 2 = 0 := by
    rcases even with stride | single
    · rwa [stride] at onStride
    · omega
  omega

/-- What the table makes of a capital, it leaves alone. -/
theorem Maps.lookup_image (maps : run.Maps code image)
    (settles : run.settles = true) : lookup caseRuns image = none := by
  simp only [CaseRun.settles, Bool.and_eq_true, List.all_eq_true,
    Bool.or_eq_true] at settles
  apply lookup_eq_none
  intro other member reached before
  rcases settles.1.1.1.1.1 other member with clear | between
  · have := maps.not_mem_of_clearOf clear
    omega
  · exact maps.not_mem_of_betweenCapitals between reached

end CaseRun

theorem RangeTable.holds_eq_false {table : RangeTable} {code : Nat}
    (outside : ∀ range ∈ table, code < range.1 ∨ range.2 < code) :
    table.holds code = false := by
  rw [← Bool.not_eq_true]
  intro held
  obtain ⟨range, member, low, high⟩ := RangeTable.exists_range_of_holds held
  have := outside range member
  omega

/-- A character that lower-casing leaves alone, and that is neither blank nor
among the ASCII characters up to the grave accent, such as quotes and
backslashes. -/
structure Settled (c : Char) : Prop where
  lowerChar_eq : lowerChar c = [c]
  notBlank : isBlank c = false
  high : 0x60 < c.toNat

private theorem toNat_ofNat {code : Nat} (valid : code.isValidChar) :
    (Char.ofNat code).toNat = code := by
  rw [Char.ofNat, dif_pos valid]
  rfl

theorem CaseRun.Maps.toNat_image {run : CaseRun} {code image : Nat}
    (maps : run.Maps code image) (settles : run.settles = true) :
    (Char.ofNat image).toNat = image := by
  simp only [CaseRun.settles, Bool.and_eq_true, Nat.blt_eq, CaseRun.lastImage]
    at settles
  have valid := maps.not_mem_of_clearOf settles.1.2
  have := maps.le_last
  have := maps.image_eq
  exact toNat_ofNat (by omega)

theorem CaseRun.Maps.settled {run : CaseRun} {code image : Nat}
    (maps : run.Maps code image) (settles : run.settles = true) :
    Settled (Char.ofNat image) := by
  have lookup := maps.lookup_image settles
  have code := maps.toNat_image settles
  simp only [CaseRun.settles, Bool.and_eq_true, List.all_eq_true] at settles
  obtain ⟨⟨⟨⟨⟨-, unblank⟩, high⟩, undotted⟩, -⟩, -⟩ := settles
  have high := maps.not_mem_of_clearOf high
  have undotted := maps.not_mem_of_clearOf undotted
  refine ⟨?_, ?_, by omega⟩
  · rw [lowerChar, if_neg, code, lookup]
    intro same
    rw [same] at code
    have : image = 0x130 := code.symm
    omega
  · rw [isBlank, code]
    exact RangeTable.holds_eq_false fun range member =>
      maps.not_mem_of_clearOf (unblank range member)

theorem lowerChar_eq_or_settled (c : Char) :
    lowerChar c = [c] ∨ ∀ d ∈ lowerChar c, Settled d := by
  by_cases dotted : c = '\u0130'
  · subst dotted
    refine .inr (List.forall_mem_cons.mpr ⟨⟨rfl, by decide, by decide⟩, ?_⟩)
    exact List.forall_mem_singleton.mpr ⟨by decide, by decide, by decide⟩
  · rw [lowerChar, if_neg dotted]
    cases found : CaseRun.lookup caseRuns c.toNat with
    | none => exact .inl rfl
    | some image =>
        obtain ⟨run, member, maps⟩ := CaseRun.exists_maps_of_lookup found
        exact .inr (List.forall_mem_singleton.mpr
          (maps.settled (CaseRun.caseRuns_settle run member)))

theorem lowerChar_ne_nil (c : Char) : lowerChar c ≠ [] := by
  rw [lowerChar]
  split
  · exact List.cons_ne_nil _ _
  · split <;> exact List.cons_ne_nil _ _

theorem CaseRun.caseRuns_clearOf_pipe :
    ∀ run ∈ caseRuns, run.clearOf 0x7C 0x7C = true := by
  decide +kernel

theorem CaseRun.Maps.ofNat_ne_pipe {run : CaseRun} {code image : Nat}
    (maps : run.Maps code image) (clear : run.clearOf 0x7C 0x7C = true) :
    Char.ofNat image ≠ '|' := by
  intro same
  have outside := maps.not_mem_of_clearOf clear
  by_cases valid : image.isValidChar
  · have : image = 0x7C :=
      (toNat_ofNat valid).symm.trans (congrArg Char.toNat same)
    omega
  · rw [Char.ofNat, dif_neg valid] at same
    cases same

theorem eq_pipe_of_mem_lowerChar {c : Char} (member : '|' ∈ lowerChar c) :
    c = '|' := by
  by_cases dotted : c = '\u0130'
  · subst dotted
    exact absurd member (by decide)
  · rw [lowerChar, if_neg dotted] at member
    cases found : CaseRun.lookup caseRuns c.toNat with
    | none =>
        rw [found] at member
        exact (List.mem_singleton.mp member).symm
    | some image =>
        rw [found] at member
        obtain ⟨run, isRun, maps⟩ := CaseRun.exists_maps_of_lookup found
        have clear := CaseRun.caseRuns_clearOf_pipe run isRun
        exact absurd (List.mem_singleton.mp member).symm
          (maps.ofNat_ne_pipe clear)

theorem pipe_not_mem_lowerEach {cs : List Char} (pipeless : '|' ∉ cs) :
    '|' ∉ lowerEach cs := by
  intro member
  obtain ⟨c, origin, image⟩ := List.mem_flatMap.mp member
  obtain rfl := eq_pipe_of_mem_lowerChar image
  exact pipeless origin

theorem lowerEach_eq_self {cs : List Char}
    (each : ∀ c ∈ cs, lowerChar c = [c]) : lowerEach cs = cs := by
  induction cs with
  | nil => rfl
  | cons c rest ih =>
      obtain ⟨first, later⟩ := List.forall_mem_cons.mp each
      rw [lowerEach_cons, first, ih later, List.singleton_append]

theorem lowerChar_of_isBlank {c : Char} (blank : isBlank c = true) :
    lowerChar c = [c] := by
  have uncased : ∀ range ∈ blanks, ∀ offset ≤ range.2 - range.1,
      lowerChar (Char.ofNat (range.1 + offset)) =
        [Char.ofNat (range.1 + offset)] := by
    decide +kernel
  obtain ⟨range, member, low, high⟩ := RangeTable.exists_range_of_holds blank
  have here := uncased range member (c.toNat - range.1) (by omega)
  rwa [Nat.add_sub_cancel' low, Char.ofNat_toNat] at here

/-! ASCII characters. -/

theorem forall_ascii {p : Char → Prop} (all : ∀ code < 128, p (Char.ofNat code))
    (c : Char) (ascii : c.toNat < 128) : p c := by
  have here := all c.toNat ascii
  rwa [Char.ofNat_toNat] at here

def CaseRun.staysBeyondAscii (run : CaseRun) : Bool :=
  Nat.blt run.last 128 || Nat.ble 128 run.image ||
    (Nat.beq run.first run.last && Nat.beq run.image 0x6B)

theorem CaseRun.caseRuns_stayBeyondAscii :
    ∀ run ∈ caseRuns, run.staysBeyondAscii = true := by
  decide +kernel

/-- A character beyond ASCII has a form beyond ASCII, but for the Kelvin sign,
which becomes a k. -/
theorem exists_mem_lowerChar_beyondAscii {c : Char} (beyond : 128 ≤ c.toNat) :
    ∃ d ∈ lowerChar c, 128 ≤ d.toNat ∨ d = 'k' := by
  by_cases dotted : c = '\u0130'
  · subst dotted
    exact ⟨'\u0307', by decide, by decide⟩
  · rw [lowerChar, if_neg dotted]
    cases found : CaseRun.lookup caseRuns c.toNat with
    | none => exact ⟨c, List.mem_singleton_self c, .inl beyond⟩
    | some image =>
        obtain ⟨run, member, maps⟩ := CaseRun.exists_maps_of_lookup found
        have code := maps.toNat_image (CaseRun.caseRuns_settle run member)
        have stays := CaseRun.caseRuns_stayBeyondAscii run member
        simp only [CaseRun.staysBeyondAscii, Bool.or_eq_true, Bool.and_eq_true,
          Nat.blt_eq, Nat.ble_eq, Nat.beq_eq] at stays
        have := maps.le_last
        have := maps.image_eq
        refine ⟨Char.ofNat image, List.mem_singleton_self _, ?_⟩
        rcases stays with (ascii | beyondToo) | ⟨single, kelvin⟩
        · omega
        · exact .inl (by omega)
        · have := maps.first_le
          have isKelvin : image = 0x6B := by omega
          exact .inr (by rw [isKelvin])

theorem lowerChar_of_ascii {c : Char} (ascii : c.toNat < 128)
    (notUpper : c.isUpper = false) : lowerChar c = [c] :=
  forall_ascii (p := fun c => c.isUpper = false → lowerChar c = [c])
    (by decide +kernel) c ascii
    notUpper

end RowAudit.Text
