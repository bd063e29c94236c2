import Launchplane.Intervals
import Launchplane.Text
import Mathlib.Algebra.Order.Field.Rat
import Mathlib.Data.Rat.Floor

/-!
# Launchplane.BusinessHours.CalendarWindow

**Business hours.** A release waits while the company works. On every calendar
day the company works from the earliest start to the latest end of the day's
attendance rows, meals included, but not during its leaves. `calendarWindow`
looks at the days from the local day of now on, and answers when the work that is
in progress ends.

Times are rational numbers of hours, in UTC or on the local clock, and a day is
its ordinal. A clock that is set back shows a local time twice: `fold` says which
of the two is meant.
-/

namespace Launchplane.BusinessHours

open Launchplane.Intervals

/-- A timezone: how its clock relates to UTC. -/
structure Zone where
  key : String
  toUtc : ℚ → Bool → ℚ
  toLocal : ℚ → ℚ

/-- An attendance row of a calendar. A field is `none` when it is missing or of another type. -/
structure AttendanceRow where
  displayType : Bool := false
  resourceId : Bool := false
  dayOfWeek : Option String
  hourFrom : Option ℚ
  hourTo : Option ℚ
  weekType : Option String := none
  deriving Repr, DecidableEq

/-- A leave, in UTC. A time is `none` when it cannot be read. -/
structure Leave where
  dateFrom : Option ℚ
  dateTo : Option ℚ
  deriving Repr, DecidableEq

/-- The calendar, with its timezone if that is known. -/
structure Calendar where
  flexibleHours : Option Bool
  durationBased : Option Bool
  twoWeeksCalendar : Option Bool
  zone : Option Zone

/-- `BusinessHoursWindow`. -/
structure BusinessHoursWindow where
  timezone : String
  nextReleaseAt : Option ℚ := none
  deriving Repr, DecidableEq

/-! ### A day's work -/

/-- `date.weekday`. -/
def weekday (day : Int) : Int := (day + 6) % 7

/-- Which of two alternating weeks a day is in. -/
def alternatingWeek (day : Int) : Int := ((day - 1) / 7) % 2

/-- The checks of a row, made for every day. -/
def checkRow (twoWeeks : Bool) (row : AttendanceRow) : Except String Unit :=
  match row.dayOfWeek with
  | none => .error "Calendar text evidence is unavailable."
  | some dayOfWeek =>
    if dayOfWeek ∉ ["0", "1", "2", "3", "4", "5", "6"] then .error "Invalid weekday."
    else match row.hourFrom, row.hourTo with
    | some hourFrom, some hourTo =>
      if ¬ (0 ≤ hourFrom ∧ hourFrom < hourTo ∧ hourTo ≤ 24) then
        .error "Invalid attendance hours."
      else if twoWeeks ∧ row.weekType ≠ some "0" ∧ row.weekType ≠ some "1" then
        .error "Missing alternating-week evidence."
      else .ok ()
    | _, _ => .error "Calendar hour evidence is unavailable."

/-- The checks of all rows. -/
def checkRows (twoWeeks : Bool) : List AttendanceRow → Except String Unit
  | [] => .ok ()
  | row :: rest => do
    checkRow twoWeeks row
    checkRows twoWeeks rest

/-- The row is about the day. -/
def AttendanceRow.on (row : AttendanceRow) (twoWeeks : Bool) (day : Int) : Bool :=
  row.dayOfWeek = some (toString (weekday day)) ∧
    (twoWeeks = true → row.weekType = some (toString (alternatingWeek day)))

/-- The hours of a day. -/
def dayHours (twoWeeks : Bool) (rows : List AttendanceRow) (day : Int) : List (ℚ × ℚ) :=
  (rows.filter (·.on twoWeeks day)).filterMap fun row =>
    match row.hourFrom, row.hourTo with
    | some hourFrom, some hourTo => some (hourFrom, hourTo)
    | _, _ => none

/-- The earlier of the two instants at which the clock shows a time. -/
def Zone.earlier (zone : Zone) (value : ℚ) : ℚ := min (zone.toUtc value false) (zone.toUtc value true)

/-- The later of the two. -/
def Zone.later (zone : Zone) (value : ℚ) : ℚ := max (zone.toUtc value false) (zone.toUtc value true)

/-- `utc_boundary`. -/
def utcBoundary (zone : Zone) (value : ℚ) (ending : Bool) : Except String ℚ :=
  if zone.toLocal (zone.toUtc value false) ≠ value ∨ zone.toLocal (zone.toUtc value true) ≠ value then
    .error "Calendar boundary falls in a DST gap."
  else .ok (if ending then zone.later value else zone.earlier value)

/-- The span of the hours of a day, in UTC. -/
def workSpan (zone : Zone) (day : Int) (hours : List (ℚ × ℚ)) : Except String (List (ℚ × ℚ)) :=
  match (hours.map Prod.fst).min?, (hours.map Prod.snd).max? with
  | some first, some last => do
    let start ← utcBoundary zone (24 * day + first) false
    let stop ← utcBoundary zone (24 * day + last) true
    return [(start, stop)]
  | _, _ => .ok []

/-- The spans of some days. -/
def daySpans (zone : Zone) (twoWeeks : Bool) (rows : List AttendanceRow) :
    List Int → Except String (List (ℚ × ℚ))
  | [] => .ok []
  | day :: days => do
    checkRows twoWeeks rows
    let span ← workSpan zone day (dayHours twoWeeks rows day)
    let rest ← daySpans zone twoWeeks rows days
    return span ++ rest

/-- The loop over the leaves. -/
def subtractLeaves : List (ℚ × ℚ) → List Leave → Except String (List (ℚ × ℚ))
  | intervals, [] => .ok intervals
  | intervals, leave :: leaves =>
    match leave.dateFrom, leave.dateTo with
    | some start, some stop =>
      if stop ≤ start then .error "Invalid company leave."
      else subtractLeaves (cut start stop intervals) leaves
    | _, _ => .error "Calendar text evidence is unavailable."

/-- The rows of the company. -/
def companyRows (attendance : List AttendanceRow) : List AttendanceRow :=
  attendance.filter fun row => ¬ row.displayType ∧ ¬ row.resourceId

/-- The local day of an instant. -/
def Zone.localDay (zone : Zone) (now : ℚ) : Int := ⌊zone.toLocal now / 24⌋

/-- The days that are looked at. -/
def daysAhead (localDay : Int) : List Int := (List.range 15).map fun offset => localDay + offset

/-- `calendar_window`. -/
def calendarWindow (calendar : Calendar) (attendance : List AttendanceRow) (leaves : List Leave)
    (now : ℚ) : Except String BusinessHoursWindow :=
  if calendar.flexibleHours ≠ some false ∨ calendar.durationBased ≠ some false then
    .error "A fixed company calendar is required."
  else match calendar.twoWeeksCalendar, calendar.zone with
  | none, _ => .error "Calendar week mode is unavailable."
  | some _, none => .error "Calendar timezone is unavailable."
  | some twoWeeks, some zone =>
    if companyRows attendance = [] then .error "The company calendar has no working hours."
    else do
      let spans ← daySpans zone twoWeeks (companyRows attendance) (daysAhead (zone.localDay now))
      let intervals ← subtractLeaves spans leaves
      let closing := follow now (sorted intervals)
      if closing = now then return { timezone := zone.key }
      else if zone.toUtc (24 * (zone.localDay now + 14)) false ≤ closing then
        .error "No out-of-hours window found in the bounded calendar."
      else return { timezone := zone.key, nextReleaseAt := some closing }

/-! ### What the window is about -/

section

variable (zone : Zone) (twoWeeks : Bool) (rows : List AttendanceRow) (leaves : List Leave)

/-- The company works at an instant on account of a day: it is between the earliest start and the
latest end of the day's hours, and in no leave. -/
def WorksOn (day : Int) (t : ℚ) : Prop :=
  (∃ first last, IsLeast {a | ∃ hours ∈ dayHours twoWeeks rows day, hours.1 = a} first ∧
    IsGreatest {b | ∃ hours ∈ dayHours twoWeeks rows day, hours.2 = b} last ∧
    zone.earlier (24 * day + first) ≤ t ∧ t < zone.later (24 * day + last)) ∧
  ∀ leave ∈ leaves, ∀ start stop, leave.dateFrom = some start → leave.dateTo = some stop →
    ¬ (start ≤ t ∧ t < stop)

/-- The company works at an instant. -/
def Works (t : ℚ) : Prop := ∃ day, WorksOn zone twoWeeks rows leaves day t

/-- A window is exact: it blocks when the company works, until it first does not. -/
structure BusinessHoursWindow.Exact (window : BusinessHoursWindow) (now : ℚ) : Prop where
  blocks : window.nextReleaseAt = none ↔ ¬ Works zone twoWeeks rows leaves now
  release : ∀ t, window.nextReleaseAt = some t →
    IsLeast {t | now < t ∧ ¬ Works zone twoWeeks rows leaves t} t

/-- An instant is between the earliest start and the latest end of the hours of a day. -/
def InSpan (day : Int) (t : ℚ) : Prop :=
  ∃ first last, IsLeast {a | ∃ hours ∈ dayHours twoWeeks rows day, hours.1 = a} first ∧
    IsGreatest {b | ∃ hours ∈ dayHours twoWeeks rows day, hours.2 = b} last ∧
    zone.earlier (24 * day + first) ≤ t ∧ t < zone.later (24 * day + last)

/-- An instant is in a leave. -/
def OnLeave (t : ℚ) : Prop :=
  ∃ leave ∈ leaves, ∃ start stop, leave.dateFrom = some start ∧ leave.dateTo = some stop ∧
    start ≤ t ∧ t < stop

/-- A day is one of the fifteen from the local day of `now` on. -/
def Zone.Ahead (now : ℚ) (day : Int) : Prop :=
  zone.localDay now ≤ day ∧ day ≤ zone.localDay now + 14

/-- As long as nobody is on leave, the span of no other day goes on where the spans of the fifteen
days from the local day of `now` on leave off. -/
def NoOtherSpan (now : ℚ) : Prop :=
  ∀ t, now ≤ t → (∀ u, now ≤ u → u ≤ t → ¬ OnLeave leaves u) →
    (∀ u, now ≤ u → u < t → ∃ day, zone.Ahead now day ∧ InSpan zone twoWeeks rows day u) →
    ∀ day, InSpan zone twoWeeks rows day t →
      ∃ day, zone.Ahead now day ∧ InSpan zone twoWeeks rows day t

variable {zone twoWeeks rows leaves}

theorem worksOn_iff {day : Int} {t : ℚ} :
    WorksOn zone twoWeeks rows leaves day t ↔ InSpan zone twoWeeks rows day t ∧ ¬ OnLeave leaves t := by
  unfold WorksOn InSpan OnLeave
  refine and_congr_right fun _ => ⟨fun h => ?_, fun h leave hleave start stop hfrom hto hin => ?_⟩
  · rintro ⟨leave, hleave, start, stop, hfrom, hto, hin⟩
    exact h leave hleave start stop hfrom hto hin
  · exact h ⟨leave, hleave, start, stop, hfrom, hto, hin⟩

theorem mem_daysAhead {now : ℚ} {day : Int} :
    day ∈ daysAhead (zone.localDay now) ↔ zone.Ahead now day := by
  simp only [daysAhead, Zone.Ahead, List.mem_map, bind_pure_comp, List.map_eq_map, List.mem_range]
  constructor
  · rintro ⟨_, ⟨offset, hoffset, rfl⟩, rfl⟩
    omega
  · rintro ⟨hfrom, hto⟩
    exact ⟨day - zone.localDay now, ⟨(day - zone.localDay now).toNat, by omega, by omega⟩, by omega⟩

/-- If the earlier days are over, no other span goes on up to an instant at which none of the
fifteen days' does, unless a later day's does. -/
theorem noOtherSpan_of_over {now : ℚ} (free : ℚ) (hle : now ≤ free)
    (hearlier : ∀ day < zone.localDay now, ∀ t, now ≤ t → ¬ InSpan zone twoWeeks rows day t)
    (hfree : ∀ day, zone.Ahead now day → ¬ InSpan zone twoWeeks rows day free)
    (hlater : ∀ day, zone.localDay now + 14 < day → ∀ t, InSpan zone twoWeeks rows day t → free < t) :
    NoOtherSpan zone twoWeeks rows leaves now := by
  intro t hnow _ hspans day hspan
  rcases lt_or_ge day (zone.localDay now) with hday | hfrom
  · exact absurd hspan (hearlier day hday t hnow)
  rcases lt_or_ge (zone.localDay now + 14) day with hday | hto
  · obtain ⟨day', hahead, hspan'⟩ := hspans free hle (hlater day hday t hspan)
    exact absurd hspan' (hfree day' hahead)
  · exact ⟨day, ⟨hfrom, hto⟩, hspan⟩

theorem min?_eq_some_iff_isLeast {values : List ℚ} {first : ℚ} :
    values.min? = some first ↔ IsLeast {a | a ∈ values} first := by
  rw [List.min?_eq_some_iff]
  rfl

theorem max?_eq_some_iff_isGreatest {values : List ℚ} {last : ℚ} :
    values.max? = some last ↔ IsGreatest {b | b ∈ values} last := by
  rw [List.max?_eq_some_iff]
  rfl

theorem utcBoundary_eq_ok {value boundary : ℚ} {ending : Bool}
    (h : utcBoundary zone value ending = .ok boundary) :
    boundary = if ending then zone.later value else zone.earlier value := by
  unfold utcBoundary at h
  split at h
  · cases h
  · exact (Except.ok.inj h).symm

/-- The span of a day covers the time from its earliest start to its latest end. -/
theorem workSpan_eq_ok {day : Int} {hours span : List (ℚ × ℚ)}
    (h : workSpan zone day hours = .ok span) (t : ℚ) :
    Covers span t ↔ ∃ first last, IsLeast {a | ∃ h ∈ hours, h.1 = a} first ∧
      IsGreatest {b | ∃ h ∈ hours, h.2 = b} last ∧
      zone.earlier (24 * day + first) ≤ t ∧ t < zone.later (24 * day + last) := by
  have hleast : ∀ first, IsLeast {a | ∃ h ∈ hours, h.1 = a} first ↔
      (hours.map Prod.fst).min? = some first := by
    intro first
    simp only [min?_eq_some_iff_isLeast, List.mem_map]
  have hgreatest : ∀ last, IsGreatest {b | ∃ h ∈ hours, h.2 = b} last ↔
      (hours.map Prod.snd).max? = some last := by
    intro last
    simp only [max?_eq_some_iff_isGreatest, List.mem_map]
  simp only [hleast, hgreatest]
  unfold workSpan at h
  split at h
  next first last hfirst hlast =>
    obtain ⟨start, hstart, h⟩ := bind_eq_ok.mp h
    obtain ⟨stop, hstop, h⟩ := bind_eq_ok.mp h
    obtain rfl := Except.ok.inj h
    obtain rfl := utcBoundary_eq_ok hstart
    obtain rfl := utcBoundary_eq_ok hstop
    simp [Covers, hfirst, hlast]
  next hnone =>
    obtain rfl := Except.ok.inj h
    simp only [not_covers_nil, false_iff]
    rintro ⟨first, last, hfirst, hlast, -⟩
    exact hnone first last hfirst hlast

/-- The spans of some days cover what lies in the span of one of them. -/
theorem daySpans_eq_ok {days : List Int} {spans : List (ℚ × ℚ)}
    (h : daySpans zone twoWeeks rows days = .ok spans) (t : ℚ) :
    Covers spans t ↔ ∃ day ∈ days, WorksOn zone twoWeeks rows [] day t := by
  induction days generalizing spans with
  | nil =>
      obtain rfl := Except.ok.inj h
      simp
  | cons day days ih =>
      unfold daySpans at h
      obtain ⟨-, -, h⟩ := bind_eq_ok.mp h
      obtain ⟨span, hspan, h⟩ := bind_eq_ok.mp h
      obtain ⟨rest, hrest, h⟩ := bind_eq_ok.mp h
      obtain rfl := Except.ok.inj h
      rw [covers_append, workSpan_eq_ok hspan, ih hrest, List.exists_mem_cons_iff]
      simp [WorksOn]

theorem subtractLeaves_eq_ok {intervals remaining : List (ℚ × ℚ)}
    (h : subtractLeaves intervals leaves = .ok remaining) (t : ℚ) :
    Covers remaining t ↔ Covers intervals t ∧
      ∀ leave ∈ leaves, ∀ start stop, leave.dateFrom = some start → leave.dateTo = some stop →
        ¬ (start ≤ t ∧ t < stop) := by
  induction leaves generalizing intervals with
  | nil =>
      obtain rfl := Except.ok.inj h
      simp
  | cons leave leaves ih =>
      unfold subtractLeaves at h
      split at h
      next start stop hstart hstop =>
        split at h
        · cases h
        · rw [ih h, covers_cut, List.forall_mem_cons, and_assoc]
          simp [hstart, hstop]
      next => cases h

/-- What the window is read off: the first instant at which no work of the days ahead is in
progress. -/
theorem calendarWindow_eq_ok {calendar : Calendar} {attendance : List AttendanceRow} {now : ℚ}
    {window : BusinessHoursWindow}
    (h : calendarWindow calendar attendance leaves now = .ok window)
    (hweeks : calendar.twoWeeksCalendar = some twoWeeks) (hzone : calendar.zone = some zone) :
    ∃ closing, IsLeast {t | now ≤ t ∧ ¬ ∃ day ∈ daysAhead (zone.localDay now),
        WorksOn zone twoWeeks (companyRows attendance) leaves day t} closing ∧
      window.nextReleaseAt = if closing = now then none else some closing := by
  unfold calendarWindow at h
  rw [hweeks, hzone] at h
  dsimp only at h
  split at h
  · cases h
  split at h
  · cases h
  obtain ⟨spans, hspans, h⟩ := bind_eq_ok.mp h
  obtain ⟨intervals, hintervals, h⟩ := bind_eq_ok.mp h
  have hcovers : ∀ t, Covers intervals t ↔ ∃ day ∈ daysAhead (zone.localDay now),
      WorksOn zone twoWeeks (companyRows attendance) leaves day t := by
    intro t
    rw [subtractLeaves_eq_ok hintervals, daySpans_eq_ok hspans]
    simp only [WorksOn, List.not_mem_nil, false_implies, implies_true, and_true, ← and_assoc,
      exists_and_right]
  refine ⟨follow now (sorted intervals), ?_, ?_⟩
  · simp only [← hcovers]
    exact isLeast_follow now intervals
  · split at h
    next hnow =>
      obtain rfl := Except.ok.inj h
      rw [if_pos hnow]
    next hlater =>
      split at h
      · cases h
      · obtain rfl := Except.ok.inj h
        rw [if_neg hlater]

end

/-- Where the work of the fifteen days leaves off, work goes on only in the span of another day. -/
theorem noOtherSpan_iff {now closing : ℚ}
    (hleast : IsLeast {t | now ≤ t ∧ ¬ ∃ day ∈ daysAhead (zone.localDay now),
      WorksOn zone twoWeeks rows leaves day t} closing) :
    NoOtherSpan zone twoWeeks rows leaves now ↔ ¬ Works zone twoWeeks rows leaves closing := by
  have hbefore : ∀ u, now ≤ u → u < closing →
      ∃ day, zone.Ahead now day ∧ WorksOn zone twoWeeks rows leaves day u := by
    intro u hle hlt
    by_contra hnone
    refine absurd (hleast.2 ⟨hle, ?_⟩) (not_le.mpr hlt)
    rintro ⟨day, hday, hworks⟩
    exact hnone ⟨day, mem_daysAhead.mp hday, hworks⟩
  have hclosing : ∀ day, zone.Ahead now day → ¬ WorksOn zone twoWeeks rows leaves day closing :=
    fun day hahead hworks => hleast.1.2 ⟨day, mem_daysAhead.mpr hahead, hworks⟩
  constructor
  · rintro hother ⟨day, hworks⟩
    obtain ⟨hspan, hleave⟩ := worksOn_iff.mp hworks
    have hnoLeave : ∀ u, now ≤ u → u ≤ closing → ¬ OnLeave leaves u := by
      intro u hle hupto
      rcases hupto.lt_or_eq with hlt | rfl
      · obtain ⟨day', -, hworks'⟩ := hbefore u hle hlt
        exact (worksOn_iff.mp hworks').2
      · exact hleave
    have hspans : ∀ u, now ≤ u → u < closing →
        ∃ day, zone.Ahead now day ∧ InSpan zone twoWeeks rows day u := by
      intro u hle hlt
      obtain ⟨day', hahead, hworks'⟩ := hbefore u hle hlt
      exact ⟨day', hahead, (worksOn_iff.mp hworks').1⟩
    obtain ⟨day', hahead, hspan'⟩ := hother closing hleast.1.1 hnoLeave hspans day hspan
    exact hclosing day' hahead (worksOn_iff.mpr ⟨hspan', hleave⟩)
  · intro hidle t hle hleave hspans day hspan
    by_contra hnone
    -- then the spans leave off at `t`, where the other day's work goes on
    have heq : closing = t := by
      refine le_antisymm (hleast.2 ⟨hle, ?_⟩) (not_lt.mp fun hlt => ?_)
      · rintro ⟨day', hday', hworks'⟩
        exact hnone ⟨day', mem_daysAhead.mp hday', (worksOn_iff.mp hworks').1⟩
      · obtain ⟨day', hahead, hspan'⟩ := hspans closing hleast.1.1 hlt
        exact hclosing day' hahead
          (worksOn_iff.mpr ⟨hspan', hleave closing hleast.1.1 hlt.le⟩)
    subst heq
    exact hidle ⟨day, worksOn_iff.mpr ⟨hspan, hleave closing hle le_rfl⟩⟩

/-- **Business hours are exact** exactly if no other day's span goes on where those of the fifteen
days leave off. -/
theorem exact_iff (calendar : Calendar) (attendance : List AttendanceRow) (leaves : List Leave)
    (now : ℚ) (twoWeeks : Bool) (zone : Zone) (window : BusinessHoursWindow)
    (hweeks : calendar.twoWeeksCalendar = some twoWeeks) (hzone : calendar.zone = some zone)
    (h : calendarWindow calendar attendance leaves now = .ok window) :
    window.Exact zone twoWeeks (companyRows attendance) leaves now ↔
      NoOtherSpan zone twoWeeks (companyRows attendance) leaves now := by
  obtain ⟨closing, hleast, hrelease⟩ := calendarWindow_eq_ok h hweeks hzone
  rw [noOtherSpan_iff hleast]
  constructor
  · -- the window says of the closing instant that no day works there: there is no block, or it is
    -- the next release
    intro hexact hworks
    by_cases hnow : closing = now
    · rw [if_pos hnow] at hrelease
      exact hexact.blocks.mp hrelease (hnow ▸ hworks)
    · rw [if_neg hnow] at hrelease
      exact (hexact.release closing hrelease).1.2 hworks
  · intro hidle
    have hahead : ∀ t, now ≤ t → ¬ Works zone twoWeeks (companyRows attendance) leaves t →
        closing ≤ t := fun t hle hnot =>
      hleast.2 ⟨hle, fun ⟨day, _, hworks⟩ => hnot ⟨day, hworks⟩⟩
    by_cases hnow : closing = now
    · rw [if_pos hnow] at hrelease
      exact ⟨iff_of_true hrelease (hnow ▸ hidle), fun t ht => by rw [hrelease] at ht; cases ht⟩
    · rw [if_neg hnow] at hrelease
      have hworking : Works zone twoWeeks (companyRows attendance) leaves now := by
        by_contra hnot
        exact hnow (le_antisymm (hahead now le_rfl hnot) hleast.1.1)
      refine ⟨iff_of_false (by simp [hrelease]) (not_not.mpr hworking), fun t ht => ?_⟩
      rw [hrelease] at ht
      obtain rfl := Option.some.inj ht
      refine ⟨⟨lt_of_le_of_ne hleast.1.1 (Ne.symm hnow), hidle⟩, ?_⟩
      rintro t' ⟨hlt, hnot⟩
      exact hahead t' hlt.le hnot

/-! ### Two calendars -/

/-- A timezone without clock changes. -/
def utc : Zone := { key := "UTC", toUtc := fun value _ => value, toLocal := id }

/-- The calendar of a zone, with the same hours every week. -/
def weekly (zone : Zone) : Calendar :=
  { flexibleHours := some false, durationBased := some false, twoWeeksCalendar := some false
    zone := some zone }

/-- Hours of a weekday. -/
def hours (dayOfWeek : String) (hourFrom hourTo : ℚ) : AttendanceRow :=
  { dayOfWeek := some dayOfWeek, hourFrom := some hourFrom, hourTo := some hourTo }

/-- A clock that is set back from one to midnight, on Sunday 2026-11-01. -/
def setBackAtOne : Zone where
  key := "America/Havana"
  toUtc value fold :=
    if value < 24 * 739921 then value + 4
    else if value < 24 * 739921 + 1 then value + (if fold then 5 else 4)
    else value + 5
  toLocal t := if t < 24 * 739921 + 5 then t - 4 else t - 5

/-- In the span of the hours of a day, if there is one row of hours. -/
theorem inSpan_hours {zone : Zone} {dayOfWeek : String} {hourFrom hourTo : ℚ} {day : Int} {t : ℚ} :
    InSpan zone false [hours dayOfWeek hourFrom hourTo] day t ↔
      dayOfWeek = toString (weekday day) ∧
        zone.earlier (24 * day + hourFrom) ≤ t ∧ t < zone.later (24 * day + hourTo) := by
  by_cases hday : dayOfWeek = toString (weekday day)
  · simp [InSpan, dayHours, AttendanceRow.on, hours, hday, IsLeast, IsGreatest, lowerBounds,
      upperBounds]
  · have hrow : (hours dayOfWeek hourFrom hourTo).on false day = false := by
      simpa [AttendanceRow.on, hours] using hday
    refine iff_of_false ?_ fun h => hday h.1
    simp [InSpan, dayHours, hrow, IsLeast]

/-- On a Monday at ten, no other day's span goes on after five. -/
theorem noOtherSpan_monday :
    NoOtherSpan utc false [hours "0" 9 17] [] (24 * 8 + 10) := by
  have hlocal : utc.localDay (24 * 8 + 10) = 8 := by decide +kernel
  have hspan : ∀ {day : Int} {t : ℚ}, InSpan utc false [hours "0" 9 17] day t →
      24 * (day : ℚ) + 9 ≤ t ∧ t < 24 * day + 17 := by
    intro day t h
    simpa [Zone.earlier, Zone.later, utc] using (inSpan_hours.mp h).2
  have hcast : ∀ {n day : Int}, n ≤ day → (n : ℚ) ≤ day := fun h => by exact_mod_cast h
  refine noOtherSpan_of_over (24 * 8 + 17) (by norm_num) ?_ ?_ ?_
  · intro day hday t hle h
    have := hcast (show day + 1 ≤ 8 by omega)
    push_cast at this
    linarith [(hspan h).2]
  · rintro day - h
    have hfrom : (day : ℚ) < 9 := by linarith [(hspan h).1]
    have hto : (8 : ℚ) < day := by linarith [(hspan h).2]
    have := Int.cast_lt.mp (show ((8 : Int) : ℚ) < day by exact_mod_cast hto)
    have := Int.cast_lt.mp (show (day : ℚ) < ((9 : Int) : ℚ) by exact_mod_cast hfrom)
    omega
  · intro day hday t h
    have := hcast (show 23 ≤ day by omega)
    push_cast at this
    linarith [(hspan h).1]

/-- Half an hour after the first midnight, Saturday's hours until twenty-four are in progress. -/
theorem works_repeated_midnight :
    Works setBackAtOne false [hours "5" 8 24] [] (24 * 739921 + 9 / 2) :=
  ⟨739920, worksOn_iff.mpr ⟨inSpan_hours.mpr (by decide +kernel), by simp [OnLeave]⟩⟩

/-- On a Monday at ten, work goes on until five and nothing else does. Half an hour after the first
midnight, Saturday's span goes on. -/
theorem exact_iff_monday :
    ({ timezone := "UTC", nextReleaseAt := some (24 * 8 + 17) } : BusinessHoursWindow).Exact utc
      false [hours "0" 9 17] [] (24 * 8 + 10) ∧
    ¬ NoOtherSpan setBackAtOne false [hours "5" 8 24] [] (24 * 739921 + 9 / 2) :=
  ⟨(exact_iff (weekly utc) [hours "0" 9 17] [] (24 * 8 + 10) false utc _ rfl rfl
      (by decide +kernel)).mpr noOtherSpan_monday,
    fun hother => ((exact_iff (weekly setBackAtOne) [hours "5" 8 24] [] (24 * 739921 + 9 / 2) false
      setBackAtOne { timezone := "America/Havana" } rfl rfl (by decide +kernel)).mpr
        hother).blocks.mp rfl works_repeated_midnight⟩

/-- Half an hour after the first midnight, Saturday's hours until twenty-four are in progress until
the second one, but nothing is blocked. -/
theorem calendarWindow_repeated_midnight :
    calendarWindow (weekly setBackAtOne) [hours "5" 8 24] [] (24 * 739921 + 9 / 2) =
      .ok { timezone := "America/Havana" } ∧
    Works setBackAtOne false [hours "5" 8 24] [] (24 * 739921 + 9 / 2) ∧
    ¬ ({ timezone := "America/Havana" } : BusinessHoursWindow).Exact setBackAtOne false
      [hours "5" 8 24] [] (24 * 739921 + 9 / 2) :=
  ⟨by decide +kernel, works_repeated_midnight,
    fun hexact => hexact.blocks.mp rfl works_repeated_midnight⟩

end Launchplane.BusinessHours
