import FuncMeta.Proofs.Image.Failure
import FuncMeta.Report

/-!
# Where the tables of an image lie

A table ends where a table declared behind it starts, if one does so at or after its own start, and
otherwise where the next one of all tables starts. So no later table starts inside it, and tables
that start in declared order lie side by side. Main statements: `tableEnd_le_of_later`,
`stop_of_forall_lt`, `TableSpan.Tile.existsUnique_contains` and `spans_of_decode`.
-/

namespace FuncMeta

/-- What stands behind a table in the declared order is declared later. -/
theorem TableKind.later_of_declared_eq {kind : TableKind} {front back : List TableKind}
    (h : declared = front ++ kind :: back) : kind.later = back := by
  have hlt : front.length < declared.length := by
    rw [h, List.length_append, List.length_cons]
    omega
  have hkind : declared[front.length] = kind := by
    simp only [h, List.getElem_append_right (Nat.le_refl _), Nat.sub_self, List.getElem_cons_zero]
  have hdrop : declared.drop (front.length + 1) = back := by
    rw [h, ← List.drop_drop, List.drop_left, List.drop_succ_cons, List.drop_zero]
  rw [← hkind, later_eq_drop _ hlt, hdrop]

namespace TableSpan

/-- A place lies in the table. -/
def Contains (s : TableSpan) (place : Nat) : Prop := s.start ≤ place ∧ place < s.stop

/-- Another table starts between the start and the end of the table. -/
def IsCutBy (s t : TableSpan) : Prop := s.start < t.start ∧ t.start < s.stop

/-- Tables lie side by side from one place up to another. -/
def Tile : List TableSpan → (lo hi : Nat) → Prop
  | [], lo, hi => lo = hi
  | s :: rest, lo, hi => s.start = lo ∧ s.start ≤ s.stop ∧ Tile rest s.stop hi

namespace Tile

variable {spans : List TableSpan} {lo hi place : Nat} {s : TableSpan}

/-- No table starts in front of the first one. -/
theorem le_start (h : Tile spans lo hi) (hs : s ∈ spans) : lo ≤ s.start := by
  induction spans generalizing lo with
  | nil => cases hs
  | cons t rest ih =>
    obtain ⟨rfl, hle, hrest⟩ := h
    rcases List.mem_cons.mp hs with rfl | hs
    · exact Nat.le_refl _
    · exact Nat.le_trans hle (ih hrest hs)

/-- Every place from the start of the first table to the end of the last one lies in exactly one of
the tables. -/
theorem existsUnique_contains (h : Tile spans lo hi) (hlo : lo ≤ place) (hhi : place < hi) :
    ∃ s ∈ spans, s.Contains place ∧ ∀ t ∈ spans, t.Contains place → t = s := by
  induction spans generalizing lo with
  | nil =>
    cases h
    omega
  | cons s rest ih =>
    obtain ⟨rfl, hle, hrest⟩ := h
    rcases Nat.lt_or_ge place s.stop with hin | hout
    · refine ⟨s, List.mem_cons_self, ⟨hlo, hin⟩, ?_⟩
      intro t ht hcontains
      rcases List.mem_cons.mp ht with rfl | ht
      · rfl
      · have hstart := hrest.le_start ht
        have hfrom := hcontains.1
        omega
    · obtain ⟨t, ht, hcontains, hunique⟩ := ih hrest hout
      refine ⟨t, List.mem_cons_of_mem s ht, hcontains, ?_⟩
      intro u hu hother
      rcases List.mem_cons.mp hu with rfl | hu
      · have hto := hother.2
        omega
      · exact hunique u hu hother

end Tile

end TableSpan

namespace Header

variable {h : Header} {kind : TableKind} {start other size : Nat}

/-- The starts of the tables that are declared behind a table. -/
def laterStarts (h : Header) (kind : TableKind) : List Nat := kind.later.filterMap h.offset?

/-- A table ends in front of every later table that does not start in front of it. -/
theorem tableEnd_le_of_later (hstart : h.offset? kind = some start)
    (hother : other ∈ h.laterStarts kind) (hle : start ≤ other) : h.tableEnd kind size ≤ other := by
  have hmem : other ∈ (h.laterStarts kind).filter (start ≤ ·) :=
    List.mem_filter.mpr ⟨hother, decide_eq_true hle⟩
  cases hmin : ((h.laterStarts kind).filter (start ≤ ·)).min? with
  | none =>
    rw [List.min?_eq_none_iff.mp hmin] at hmem
    cases hmem
  | some stop =>
    have hnext : h.nextStart? kind start = some stop := by
      rw [nextStart?, ← laterStarts, hmin]
      rfl
    rw [tableEnd_of_nextStart? size hstart hnext]
    exact Nat.le_trans (Nat.min_le_left ..) ((List.min?_eq_some_iff.mp hmin).2 other hmem)

/-- Behind a table with no later one the next start of any table counts. -/
theorem nextStart?_of_forall_lt (hlater : ∀ other ∈ h.laterStarts kind, other < start) :
    h.nextStart? kind start = ((h.tables.map Prod.snd).filter (start < ·)).min? := by
  have hnil : (h.laterStarts kind).filter (start ≤ ·) = [] := by
    rw [List.filter_eq_nil_iff]
    intro other hother
    have hlt := hlater other hother
    rw [decide_eq_true_eq]
    omega
  rw [nextStart?, ← laterStarts, hnil]
  rfl

private theorem offset?_of_mem_tables : ∀ table ∈ h.tables, h.offset? table.1 = some table.2 := by
  simp only [tables, List.forall_mem_cons, List.not_mem_nil, false_implies, implies_true, offset?,
    and_true]

/-- The places of the tables are those of the declared tables. -/
theorem map_kind_spans (h : Header) (size : Nat) :
    (h.spans size).map TableSpan.kind = TableKind.declared := rfl

private theorem map_start_spans (h : Header) (size : Nat) :
    (h.spans size).map TableSpan.start = h.tables.map Prod.snd := rfl

section

variable {s t : TableSpan} {front back : List TableSpan}

private theorem of_mem_spans (hs : s ∈ h.spans size) :
    h.offset? s.kind = some s.start ∧ s.stop = h.tableEnd s.kind size := by
  obtain ⟨table, htable, rfl⟩ := List.mem_map.mp hs
  exact ⟨offset?_of_mem_tables table htable, rfl⟩

private theorem mem_spans_of_eq (hspans : h.spans size = front ++ s :: back) :
    s ∈ h.spans size := by
  rw [hspans]
  exact List.mem_append_right _ List.mem_cons_self

private theorem later_eq (hspans : h.spans size = front ++ s :: back) :
    s.kind.later = back.map TableSpan.kind := by
  apply TableKind.later_of_declared_eq
  rw [← map_kind_spans h size, hspans, List.map_append, List.map_cons]

/-- The starts of later tables are those of the tables listed behind. -/
theorem laterStarts_eq (hspans : h.spans size = front ++ s :: back) :
    h.laterStarts s.kind = back.map TableSpan.start := by
  have hback : ∀ t ∈ back, h.offset? t.kind = some t.start := by
    intro t ht
    have hmem : t ∈ h.spans size := by
      rw [hspans]
      exact List.mem_append_right _ (List.mem_cons_of_mem _ ht)
    exact (of_mem_spans hmem).1
  rw [laterStarts, later_eq hspans]
  -- What is listed in front plays no part in the induction.
  clear hspans
  induction back with
  | nil => rfl
  | cons t rest ih =>
    obtain ⟨ht, hrest⟩ := List.forall_mem_cons.mp hback
    rw [List.map_cons, List.filterMap_cons_some ht, ih hrest, List.map_cons]

variable (hspans : h.spans size = front ++ s :: back)

include hspans

/-- No table is declared in front of the name table. -/
theorem front_eq_nil (hname : s.kind = .functionName) : front = [] := by
  have hkinds : TableKind.declared =
      front.map TableSpan.kind ++ s.kind :: back.map TableSpan.kind := by
    rw [← map_kind_spans h size, hspans, List.map_append, List.map_cons]
  cases front with
  | nil => rfl
  | cons f rest =>
    have htail := congrArg List.tail hkinds
    rw [List.map_cons, List.cons_append, List.tail_cons, hname] at htail
    have hmem : TableKind.functionName ∈ TableKind.declared.tail := by
      rw [htail]
      exact List.mem_append_right _ List.mem_cons_self
    exact absurd hmem (by decide)

/-- A table ends in front of every table listed behind it that does not start in front of it. -/
theorem stop_le_of_mem (ht : t ∈ back) (hle : s.start ≤ t.start) : s.stop ≤ t.start := by
  obtain ⟨hstart, hstop⟩ := of_mem_spans (mem_spans_of_eq hspans)
  rw [hstop]
  apply tableEnd_le_of_later hstart _ hle
  rw [laterStarts_eq hspans]
  exact List.mem_map_of_mem ht

variable (hregion : ∀ t ∈ h.spans size, t.start < size)

include hregion

/-- If no table listed behind a table starts at or after its start, it ends where the next one of
all tables starts, or else with the region. -/
theorem stop_of_forall_lt (hback : ∀ t ∈ back, t.start < s.start) :
    (∃ t ∈ h.spans size, s.start < t.start ∧ s.stop = t.start ∧
        ∀ u ∈ h.spans size, s.start < u.start → t.start ≤ u.start) ∨
      (∀ t ∈ h.spans size, t.start ≤ s.start) ∧ s.stop = size := by
  obtain ⟨hstart, hstop⟩ := of_mem_spans (mem_spans_of_eq hspans)
  have hlater : ∀ other ∈ h.laterStarts s.kind, other < s.start := by
    rw [laterStarts_eq hspans]
    exact List.forall_mem_map.mpr hback
  have hnext := nextStart?_of_forall_lt hlater
  rw [← map_start_spans h size] at hnext
  cases hmin : (((h.spans size).map TableSpan.start).filter (s.start < ·)).min? with
  | some stop =>
    obtain ⟨hmem, hleast⟩ := List.min?_eq_some_iff.mp hmin
    obtain ⟨hmap, hlt⟩ := List.mem_filter.mp hmem
    obtain ⟨t, ht, rfl⟩ := List.mem_map.mp hmap
    refine .inl ⟨t, ht, of_decide_eq_true hlt, ?_, ?_⟩
    · rw [hstop, tableEnd_of_nextStart? size hstart (hnext.trans hmin),
        Nat.min_eq_left (Nat.le_of_lt (hregion t ht))]
    · intro u hu hsu
      exact hleast _ (List.mem_filter.mpr ⟨List.mem_map_of_mem hu, decide_eq_true hsu⟩)
  | none =>
    have hnone := List.min?_eq_none_iff.mp hmin
    refine .inr ⟨?_, ?_⟩
    · intro t ht
      have hnot := List.filter_eq_nil_iff.mp hnone t.start (List.mem_map_of_mem ht)
      rw [decide_eq_true_eq] at hnot
      omega
    · rw [hstop, tableEnd, hstart, Option.bind_some, hnext, hmin]

end

section

variable {front back : List TableSpan} {s t : TableSpan}
  (hregion : ∀ t ∈ h.spans size, t.start < size)
  (hsorted : (h.spans size).Pairwise fun s t ↦ s.start ≤ t.start)

include hregion hsorted

/-- Of tables that start in declared order each ends where the next one starts. -/
theorem stop_eq_of_sorted (hspans : h.spans size = front ++ s :: t :: back) :
    s.stop = t.start := by
  obtain ⟨hstart, hstop⟩ := of_mem_spans (mem_spans_of_eq hspans)
  have ht : t.start < size := hregion t (by simp [hspans])
  rw [hspans, List.pairwise_append, List.pairwise_cons, List.pairwise_cons] at hsorted
  obtain ⟨-, ⟨hfrom, hnext, -⟩, -⟩ := hsorted
  have hlater : s.kind.later.filterMap h.offset? = t.start :: back.map TableSpan.start :=
    laterStarts_eq hspans
  rw [hstop, tableEnd_of_nextStart? size hstart (nextStart?_of_sorted hlater
    (hfrom t List.mem_cons_self) (List.forall_mem_map.mpr hnext)),
    Nat.min_eq_left (Nat.le_of_lt ht)]

/-- Of tables that start in declared order the last one ends with the region. -/
theorem stop_last_of_sorted (hspans : h.spans size = front ++ [s]) : s.stop = size := by
  rcases stop_of_forall_lt hspans hregion nofun with ⟨t, ht, hlt, -⟩ | ⟨-, hstop⟩
  · rw [hspans, List.pairwise_append] at hsorted
    rw [hspans, List.mem_append, List.mem_singleton] at ht
    rcases ht with ht | rfl
    · have hle := hsorted.2.2 t ht s List.mem_cons_self
      omega
    · omega
  · exact hstop

/-- Tables that start in declared order lie side by side. -/
theorem tile_of_sorted (hspans : h.spans size = front ++ s :: back) :
    TableSpan.Tile (s :: back) s.start size := by
  induction back generalizing front s with
  | nil =>
    have hstop := stop_last_of_sorted hregion hsorted hspans
    have hlt := hregion s (mem_spans_of_eq hspans)
    exact ⟨rfl, by omega, hstop⟩
  | cons t rest ih =>
    have hstop := stop_eq_of_sorted hregion hsorted hspans
    have hnext : h.spans size = (front ++ [s]) ++ t :: rest := by
      rw [hspans, List.append_assoc, List.singleton_append]
    have hle : s.start ≤ t.start := by
      rw [hspans, List.pairwise_append, List.pairwise_cons] at hsorted
      exact hsorted.2.1.1 t List.mem_cons_self
    rw [TableSpan.Tile, hstop]
    exact ⟨rfl, hle, ih hnext⟩

end

/-- Where the tables of an accepted header lie. Each of the five starts at its offset in the region
and ends in it, not in front of its start. No table that is declared behind it starts inside it, and
none at all starts inside the name table. If no later table starts at or after its start, it ends
where the next one of all tables starts, or with the region if there is none. Tables that start in
declared order lie side by side from the start of the name table to the end of the region, so that
every place between them is in exactly one of them. A report on the header lists just these
tables. -/
theorem spans_of_decode {r : Region} (hd : decode r = .ok h) (source : Source) :
    (HeaderReport.of source h r.size).tables = h.spans r.size ∧
      (h.spans r.size).map TableSpan.kind = TableKind.declared ∧
      (∀ s ∈ h.spans r.size, h.offset? s.kind = some s.start ∧
        s.stop = h.tableEnd s.kind r.size ∧ s.start ≤ s.stop ∧ s.stop ≤ r.size) ∧
      (∀ front s back, h.spans r.size = front ++ s :: back →
        (∀ t ∈ back, ¬ s.IsCutBy t) ∧
        (s.kind = .functionName → ∀ t ∈ h.spans r.size, ¬ s.IsCutBy t) ∧
        ((∀ t ∈ back, t.start < s.start) →
          (∃ t ∈ h.spans r.size, s.start < t.start ∧ s.stop = t.start ∧
              ∀ u ∈ h.spans r.size, s.start < u.start → t.start ≤ u.start) ∨
            (∀ t ∈ h.spans r.size, t.start ≤ s.start) ∧ s.stop = r.size)) ∧
      ((h.spans r.size).Pairwise (fun s t ↦ s.start ≤ t.start) →
        TableSpan.Tile (h.spans r.size) h.nameTableOffset.toNat r.size ∧
          ∀ place, h.nameTableOffset.toNat ≤ place → place < r.size →
            ∃ s ∈ h.spans r.size, s.Contains place ∧
              ∀ t ∈ h.spans r.size, t.Contains place → t = s) := by
  have hregion : ∀ t ∈ h.spans r.size, t.start < r.size :=
    List.forall_mem_map.mpr (decode_eq_ok_iff.mp hd).2.offset_lt
  have hcut {front back : List TableSpan} {s t : TableSpan}
      (hspans : h.spans r.size = front ++ s :: back) (ht : t ∈ back) : ¬ s.IsCutBy t := by
    rintro ⟨hfrom, hto⟩
    have hle := stop_le_of_mem hspans ht (Nat.le_of_lt hfrom)
    omega
  refine ⟨rfl, map_kind_spans h _, ?_, ?_, ?_⟩
  · intro s hs
    obtain ⟨hstart, hstop⟩ := of_mem_spans hs
    refine ⟨hstart, hstop, ?_, ?_⟩
    · rw [hstop]
      exact le_tableEnd hstart (Nat.le_of_lt (hregion s hs))
    · rw [hstop]
      exact h.tableEnd_le _ _
  · intro front s back hspans
    refine ⟨fun t ↦ hcut hspans, ?_, stop_of_forall_lt hspans hregion⟩
    intro hname t ht
    obtain rfl := front_eq_nil hspans hname
    rw [hspans] at ht
    rcases List.mem_cons.mp ht with rfl | hback
    · exact fun h ↦ Nat.lt_irrefl _ h.1
    · exact hcut hspans hback
  · intro hsorted
    have htile : TableSpan.Tile (h.spans r.size) h.nameTableOffset.toNat r.size :=
      tile_of_sorted hregion hsorted (List.nil_append _).symm
    exact ⟨htile, fun place hlo hhi ↦ htile.existsUnique_contains hlo hhi⟩

/-- A header of 36 bytes with 12 more, whose tables start out of order. -/
def shuffledBytes : List UInt8 :=
  [0xfa, 0xff, 0xff, 0xff, 0, 0, 1, 4] ++
    [0, 0, 44, 40, 38, 46, 40].flatMap (LittleEndian.encode 4) ++ List.replicate 12 0

set_option maxRecDepth 20000 in
/-- The region of that header. -/
def shuffled : Region where
  bytes := ⟨shuffledBytes.toArray⟩
  size_lt := by decide

/-- That header. -/
def shuffledHeader : Header where
  magic := 0xfffffffa
  minInstructionSize := 1
  pointerSize := 4
  functionCount := 0
  fileCount := 0
  nameTableOffset := 44
  cuTableOffset := 40
  fileTableOffset := 38
  pcTableOffset := 46
  functionTableOffset := 40

set_option maxRecDepth 20000 in
/-- The function table, which is declared last, ends where the name table starts, which is declared
first. -/
theorem spans_of_decode_shuffled :
    decode shuffled = .ok shuffledHeader ∧
      ∃ s ∈ shuffledHeader.spans shuffled.size, s.kind = .function ∧
        ((∃ t ∈ shuffledHeader.spans shuffled.size, s.start < t.start ∧ s.stop = t.start ∧
            ∀ u ∈ shuffledHeader.spans shuffled.size, s.start < u.start → t.start ≤ u.start) ∨
          (∀ t ∈ shuffledHeader.spans shuffled.size, t.start ≤ s.start) ∧
            s.stop = shuffled.size) ∧
        s.stop = 44 := by
  have hd : decode shuffled = .ok shuffledHeader := by rfl
  obtain ⟨-, -, -, hplaces, -⟩ := spans_of_decode hd
    { path := "", sectionName := none, range := .ofStartSize .null shuffled.size }
  have hlast : shuffledHeader.spans shuffled.size =
      (shuffledHeader.spans shuffled.size).take 4 ++ ⟨.function, 40, 44⟩ :: [] := by
    decide +kernel
  obtain ⟨-, -, hnext⟩ := hplaces _ _ _ hlast
  exact ⟨hd, _, by rw [hlast]; exact List.mem_append_right _ List.mem_cons_self, rfl,
    hnext nofun, rfl⟩

end Header

end FuncMeta
