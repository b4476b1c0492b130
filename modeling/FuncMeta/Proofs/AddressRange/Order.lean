import FuncMeta.AddressRange.Json
import FuncMeta.Report.Json
import FuncMeta.Address
import FuncMeta.Proofs.Json.Record

/-!
# Ranges in order and out of order

The ranges that the constructors make are just those that do not stop before they start, and these
have a size, which decides what they contain. Every range is read back from its text, also one that
stops before it starts. Main statement: `size_of_any_range`.
-/

namespace FuncMeta.AddressRange

variable {ε : Type} {r : AddressRange} {a : Address}

private theorem isEmpty_iff : r.isEmpty = true ↔ r.stop ≤ r.start := decide_eq_true_iff

/-! ### Ranges that are made -/

private theorem exists_ofBounds?_iff :
    (∃ start stop, ofBounds? start stop = some r) ↔ r.start ≤ r.stop := by
  constructor
  · rintro ⟨start, stop, h⟩
    rw [ofBounds?, Option.ite_none_right_eq_some] at h
    obtain ⟨hle, heq⟩ := h
    cases heq
    exact hle
  · intro h
    exact ⟨r.start, r.stop, ofBounds?_of_le h⟩

private theorem exists_ofStartSize_iff :
    (∃ start size, size < Word.limit ∧ ofStartSize start size = r) ↔ r.start ≤ r.stop := by
  constructor
  · rintro ⟨start, size, -, rfl⟩
    exact start_le_stop_ofStartSize start size
  · intro h
    rw [Address.le_iff_toNat_le] at h
    have hstop := r.stop.toNat_lt
    have hsum : r.start.toNat + (r.stop.toNat - r.start.toNat) = r.stop.toNat := by omega
    refine ⟨r.start, r.stop.toNat - r.start.toNat, by omega, ?_⟩
    rw [ofStartSize, hsum, Word.saturate, Nat.min_eq_left (by omega)]
    congr 1
    exact congrArg Address.mk (UInt64.ofNat_toNat)

/-! ### The size of a range -/

/-- A range that stops before it starts has no size. -/
theorem size_of_not_le (h : ¬ r.start ≤ r.stop) : (r.size : Outcome ε Nat) = .halt :=
  if_neg fun hle ↦ h (Address.le_iff_toNat_le.mpr hle)

/-- A range is empty if it contains no address; it contains its start otherwise. -/
theorem isEmpty_iff_forall : r.isEmpty = true ↔ ∀ a, r.contains a = false := by
  simp only [isEmpty_iff, ← Bool.not_eq_true, contains_iff, Address.le_iff_toNat_le,
    Address.lt_iff_toNat_lt]
  constructor
  · intro h a
    omega
  · intro h
    have hstart := h r.start
    omega

private theorem isEmpty_iff_size (h : r.start ≤ r.stop) :
    r.isEmpty = true ↔ (r.size : Outcome ε Nat) = .ok 0 := by
  rw [isEmpty_iff, size_of_le h, Outcome.ok.injEq, Address.le_iff_toNat_le]
  omega

/-- An address is in a range if its distance from the start is below the size. -/
theorem contains_iff_size (h : r.start ≤ r.stop) :
    r.contains a = true ↔ ∃ distance size, a.sub? r.start = some distance ∧
      (r.size : Outcome ε Nat) = .ok size ∧ distance.toNat < size := by
  rw [contains_iff, size_of_le h]
  constructor
  · rintro ⟨hstart, hstop⟩
    have hdistance : (a.value - r.start.value).toNat = a.toNat - r.start.toNat :=
      UInt64.toNat_sub_of_le _ _ hstart
    refine ⟨a.value - r.start.value, _, if_pos hstart, rfl, ?_⟩
    rw [Address.le_iff_toNat_le] at hstart
    rw [Address.lt_iff_toNat_lt] at hstop
    omega
  · rintro ⟨distance, size, hsub, hsize, hlt⟩
    rw [Address.sub?, Option.ite_none_right_eq_some] at hsub
    obtain ⟨hstart, hdistance⟩ := hsub
    cases hdistance
    cases hsize
    rw [UInt64.toNat_sub_of_le _ _ hstart] at hlt
    refine ⟨hstart, Address.lt_iff_toNat_lt.mpr ?_⟩
    exact lt_of_tsub_lt_tsub_right hlt

/-! ### Ranges that are read -/

private theorem fills_bounds (r : AddressRange) (layout : Json.Layout) (depth : Nat) :
    Json.Fills fields [("start", Json.write layout depth r.start.toJson),
      ("end", Json.write layout depth r.stop.toJson)] {}
      { start := some r.start, stop := some r.stop } := by
  have hstart := (Json.reads_write_nat layout depth r.start.value).map fun w (d : Draft) ↦
    { d with start := some ⟨w⟩ }
  have hstop := (Json.reads_write_nat layout depth r.stop.value).map fun w (d : Draft) ↦
    { d with stop := some ⟨w⟩ }
  exact .field rfl rfl hstart (.field rfl rfl hstop (.nil _))

/-- Every range is read back from its text, whether or not its bounds are in order. -/
theorem reads_write (r : AddressRange) (layout : Json.Layout) (depth : Nat) :
    Json.Reads read (Json.write layout depth r.toJson) r := by
  intro gap rest hgap hrest
  have hobject : Json.IsObject _ (Json.write layout depth r.toJson) :=
    Json.isObject_write layout depth [("start", r.start.toJson), ("end", r.stop.toJson)]
  rw [read, Json.Reads.record hobject (r.fills_bounds layout (depth + 1)) gap rest hgap hrest]
  rfl

private theorem ofJson_render (r : AddressRange) (layout : Json.Layout) :
    ofJson (r.toJson.render layout) = .ok r :=
  Json.readAll_render (r.reads_write layout 0)

/-- Constructors make the ranges that do not stop before they start. Every such range has a size,
which is zero if the range is empty and otherwise above the distance of each of its addresses from
the start. A text may hold any range, and the size of one that stops before it starts cannot be
asked for. -/
theorem size_of_any_range (r : AddressRange) :
    ((∃ start stop, ofBounds? start stop = some r) ↔ r.start ≤ r.stop) ∧
    ((∃ start size, size < Word.limit ∧ ofStartSize start size = r) ↔ r.start ≤ r.stop) ∧
    (∀ layout, ofJson (r.toJson.render layout) = .ok r) ∧
    (r.isEmpty = true ↔ ∀ a, r.contains a = false) ∧
    (r.start ≤ r.stop →
      (r.size : Outcome ε Nat) = .ok (r.stop.toNat - r.start.toNat) ∧
      (r.isEmpty = true ↔ (r.size : Outcome ε Nat) = .ok 0) ∧
      ∀ a, r.contains a = true ↔ ∃ distance size, a.sub? r.start = some distance ∧
        (r.size : Outcome ε Nat) = .ok size ∧ distance.toNat < size) ∧
    (¬ r.start ≤ r.stop → (r.size : Outcome ε Nat) = .halt) :=
  ⟨exists_ofBounds?_iff, exists_ofStartSize_iff, r.ofJson_render, isEmpty_iff_forall,
    fun h ↦ ⟨size_of_le h, isEmpty_iff_size h, fun _ ↦ contains_iff_size h⟩, size_of_not_le⟩

/-- The range of all addresses but the last has a size and contains the last but one. A range that
stops before it starts is read back without a size. -/
theorem size_of_any_range_sample :
    let whole : AddressRange := ⟨.null, .ofNat (Word.limit - 1)⟩
    let inverted : AddressRange := ⟨.ofNat 2, .ofNat 1⟩
    (whole.size : Outcome Empty Nat) = .ok (Word.limit - 1) ∧
      whole.contains (.ofNat (Word.limit - 2)) = true ∧
      ofJson (inverted.toJson.render .pretty) = .ok inverted ∧
      (inverted.size : Outcome Empty Nat) = .halt := by
  intro whole inverted
  obtain ⟨-, -, -, -, hordered, -⟩ := size_of_any_range (ε := Empty) whole
  obtain ⟨-, -, hread, -, -, hhalt⟩ := size_of_any_range (ε := Empty) inverted
  obtain ⟨hsize, -, hcontains⟩ := hordered (by decide)
  exact ⟨hsize, (hcontains _).mpr ⟨_, _, rfl, rfl, by decide⟩, hread .pretty, hhalt (by decide)⟩

/-- A text with two bounds in the wrong order is read as a range, and its size halts. -/
theorem halt_of_inverted_range :
    ∃ r, ofJson "\x7b\"start\":2,\"end\":1\x7d" = .ok r ∧ ¬ r.start ≤ r.stop ∧
      (r.size : Outcome Empty Nat) = .halt :=
  ⟨⟨.ofNat 2, .ofNat 1⟩, by decide +kernel, by decide, rfl⟩

end FuncMeta.AddressRange
