import FuncMeta.Proofs.Symbol.Listing

/-!
# Agreement of the three lookups

Resolving scans the records lazily, listing reads all of them, and indexing fills a map. All three
are functions of the one listing of the image, so they give duplicates and undecodable records the
same meaning. Main statement: `lookups_agree`.
-/

namespace FuncMeta

variable {symbols : List Symbol} {name : String}

/-- A name has an entry exactly if some symbol carries it. -/
theorem isSome_entryOf?_iff : (entryOf? symbols name).isSome ↔ name ∈ symbols.map Symbol.name := by
  rw [entryOf?, Option.isSome_map, List.find?_isSome, List.mem_map]
  simp only [decide_eq_true_eq]

namespace SymbolIndex

variable {x : SymbolIndex}

private theorem get?_empty (name : String) : empty.get? name = none := Std.HashMap.getElem?_empty

/-- Of symbols with one name the first is kept. -/
theorem get?_insert (x : SymbolIndex) (s : Symbol) (name : String) :
    (x.insert s).get? name =
      (x.get? name).or (if s.name = name then some s.address else none) := by
  rw [insert]
  split
  · next hmem =>
    by_cases h : s.name = name
    · subst h
      have hsome : (x.get? s.name).isSome := Std.HashMap.mem_iff_isSome_getElem?.mp hmem
      obtain ⟨address, haddress⟩ := Option.isSome_iff_exists.mp hsome
      rw [haddress, Option.some_or]
      exact haddress
    · rw [if_neg h, Option.or_none]
      rfl
  · next hmem =>
    show (x.entries.insert s.name s.address)[name]? = x.entries[name]?.or _
    rw [Std.HashMap.getElem?_insert]
    by_cases h : s.name = name
    · subst h
      rw [if_pos (beq_self_eq_true _), if_pos rfl, Std.HashMap.getElem?_eq_none hmem,
        Option.none_or]
    · rw [if_neg (by simpa using h), if_neg h, Option.or_none]

/-- Every insertion is counted once: as a name or as a duplicate. -/
theorem size_add_duplicates_insert (x : SymbolIndex) (s : Symbol) :
    (x.insert s).size + (x.insert s).duplicates = x.size + x.duplicates + 1 := by
  rw [insert]
  split
  · rfl
  · next hmem =>
    show (x.entries.insert s.name s.address).size + x.duplicates = _
    rw [Std.HashMap.size_insert, if_neg hmem, size]
    omega

private theorem get?_foldl_insert (x : SymbolIndex) (symbols : List Symbol) (name : String) :
    (symbols.foldl insert x).get? name = (x.get? name).or (entryOf? symbols name) := by
  induction symbols generalizing x with
  | nil => exact Option.or_none.symm
  | cons s symbols ih =>
    rw [List.foldl_cons, ih, get?_insert, Option.or_assoc, entryOf?_cons]
    split
    · rw [Option.some_or]
    · rw [Option.none_or]

private theorem size_add_duplicates_foldl_insert (x : SymbolIndex) (symbols : List Symbol) :
    (symbols.foldl insert x).size + (symbols.foldl insert x).duplicates =
      x.size + x.duplicates + symbols.length := by
  induction symbols generalizing x with
  | nil => rfl
  | cons s symbols ih =>
    rw [List.foldl_cons, ih, size_add_duplicates_insert, List.length_cons]
    omega

private theorem mem_names_iff : name ∈ x.names ↔ (x.get? name).isSome := by
  rw [names, Std.HashMap.mem_keys, Std.HashMap.mem_iff_isSome_getElem?, get?]

private theorem nodup_names (x : SymbolIndex) : x.names.Nodup := Std.HashMap.nodup_keys

/-- The index of some symbols. -/
def ofSymbols (symbols : List Symbol) : SymbolIndex := symbols.foldl insert empty

/-- The index of some symbols gives the first entry of each name. -/
theorem get?_ofSymbols (symbols : List Symbol) (name : String) :
    (ofSymbols symbols).get? name = entryOf? symbols name := by
  rw [ofSymbols, get?_foldl_insert, get?_empty, Option.none_or]

/-- An index of symbols that no failure ended answers as the symbols do. -/
theorem resolve_ofSymbols (symbols : List Symbol) (name : String) :
    Outcome.ofExcept ((ofSymbols symbols).resolve name) = answer symbols none name := by
  unfold resolve answer
  rw [get?_ofSymbols]
  cases entryOf? symbols name <;> rfl

end SymbolIndex

namespace Image

variable {t : Image} {failure? : Option LayoutError}

/-- A name is resolved as the listing of the image answers it. -/
theorem resolve_eq (h : t.Listing t.count 0 symbols failure?) (name : String) :
    t.resolve name = answer symbols failure? name :=
  h.resolveAmong_eq name

/-- The list of symbols is the listing of the image, for which room is made beforehand. -/
theorem symbols_eq (h : t.Listing t.count 0 symbols failure?) :
    t.symbols = Word.reserve t.count symbolSize >>= fun _ ↦ endedBy failure? symbols := by
  rw [← h.mapM_symbol_eq]
  rfl

/-- The index is that of the listing of the image, for which room is made beforehand. -/
theorem index_eq (h : t.Listing t.count 0 symbols failure?) :
    t.index = SymbolIndex.reserve t.count >>= fun _ ↦
      endedBy failure? (SymbolIndex.ofSymbols symbols) := by
  rw [SymbolIndex.ofSymbols, ← h.indexAmong_eq]
  rfl

end Image

/-- The functions of the sample image. -/
def sampleSymbols : List Symbol :=
  [{ name := "f", address := ⟨0x1000⟩ }, { name := "f", address := ⟨0x2000⟩ }]

/-- The walk along the sample image meets all its functions. -/
theorem walk_sample : Image.sampleImage.walk = (sampleSymbols, .ok ()) := by decide +kernel

namespace Region

variable {r : Region} {t : Image}

/-- A query about a region is one about the image that it holds. -/
theorem ask_of_ok {α : Type} (h : Image.ofRegion r = .ok t)
    (query : Image → Outcome SymbolError α) : r.ask query = query t := by
  rw [ask, h]

/-- The three lookups of an image agree on its listing. The first entry of a name is found, even in
front of an undecodable record; any other name, the list and the index fail as that record does. An
index without a failure answers as the scan, counts every record once and has just the names that
are listed. Beforehand room is made for the list and for the index. -/
theorem lookups_agree (h : Image.ofRegion r = .ok t) :
    ∃ symbols failure?, t.Listing t.count 0 symbols failure? ∧
      t.walk = (symbols, endedBy failure? ()) ∧
      (∀ name, r.resolve name = answer symbols failure? name) ∧
      (r.symbols = Word.reserve t.count Image.symbolSize >>= fun _ ↦
        (endedBy failure? symbols).mapError .layout) ∧
      match failure? with
      | some e => r.index = SymbolIndex.reserve t.count >>= fun _ ↦ .error (.layout e)
      | none => ∃ x, r.index = (SymbolIndex.reserve t.count >>= fun _ ↦ .ok x) ∧
          (∀ name, .ofExcept (x.resolve name) = r.resolve name) ∧
          x.size + x.duplicates = t.count ∧
          x.names.Nodup ∧ ∀ name, name ∈ x.names ↔ name ∈ symbols.map Symbol.name := by
  obtain ⟨symbols, failure?, hlist⟩ := Image.exists_listing t t.count 0
  have hresolve (name : String) : r.resolve name = answer symbols failure? name := by
    rw [resolve, ask_of_ok h, Image.resolve_eq hlist]
  have hsymbols : r.symbols = Word.reserve t.count Image.symbolSize >>= fun _ ↦
      (endedBy failure? symbols).mapError .layout := by
    rw [Region.symbols, ask_of_ok h, Image.symbols_eq hlist, Word.reserve, Word.reserve]
    split <;> rfl
  have hindex : r.index = SymbolIndex.reserve t.count >>= fun _ ↦
      (endedBy failure? (SymbolIndex.ofSymbols symbols)).mapError .layout := by
    rw [Region.index, ask_of_ok h, Image.index_eq hlist, SymbolIndex.reserve, SymbolIndex.reserve]
    split <;> rfl
  refine ⟨symbols, failure?, hlist, hlist.walkAmong_eq, hresolve, hsymbols, ?_⟩
  cases failure? with
  | some e => exact hindex
  | none =>
    refine ⟨_, hindex, ?_, ?_, SymbolIndex.nodup_names _, ?_⟩
    · intro name
      rw [hresolve, SymbolIndex.resolve_ofSymbols]
    · rw [SymbolIndex.ofSymbols, SymbolIndex.size_add_duplicates_foldl_insert, hlist.length_eq]
      exact Nat.zero_add _
    · intro name
      rw [SymbolIndex.mem_names_iff, SymbolIndex.get?_ofSymbols, isSome_entryOf?_iff]

/-- In the sample image the two functions of one name are listed, the first of them is resolved, and
the index counts the second one as a duplicate. -/
theorem lookups_agree_sample :
    Image.ofRegion sample = .ok Image.sampleImage ∧
      Image.sampleImage.walk = (sampleSymbols, .ok ()) ∧ sample.symbols = .ok sampleSymbols ∧
      sample.resolve "f" = .ok ⟨0x1000⟩ ∧
      (∀ name, name ≠ "f" → sample.resolve name = .error (.notFound name)) ∧
      ∃ x, sample.index = .ok x ∧ x.resolve "f" = .ok ⟨0x1000⟩ ∧ x.names = ["f"] ∧ x.size = 1 ∧
        x.duplicates = 1 := by
  obtain ⟨symbols, failure?, -, hwalk, hresolve, hsymbols, hindex⟩ :=
    lookups_agree Image.ofRegion_sample
  rw [walk_sample, Prod.mk.injEq] at hwalk
  obtain ⟨rfl, hending⟩ := hwalk
  cases failure? with
  | some e => cases hending
  | none =>
    obtain ⟨x, hx, hagree, hcount, hnodup, hmem⟩ := hindex
    have hnames : x.names = ["f"] := by
      refine List.perm_singleton.mp ((List.perm_ext_iff_of_nodup hnodup (by decide)).mpr ?_)
      intro name
      rw [hmem]
      simp [sampleSymbols]
    have hsize : x.size = 1 := by
      rw [SymbolIndex.size, ← Std.HashMap.length_keys, ← SymbolIndex.names, hnames]
      rfl
    have hf : sample.resolve "f" = .ok ⟨0x1000⟩ := hresolve "f"
    have hindexed : x.resolve "f" = .ok ⟨0x1000⟩ :=
      Outcome.ofExcept_eq_ok_iff.mp ((hagree "f").trans hf)
    refine ⟨Image.ofRegion_sample, walk_sample, hsymbols, hf, ?_, x, hx, hindexed, hnames, hsize,
      ?_⟩
    · intro name hname
      rw [hresolve, sampleSymbols, answer_cons, if_neg hname.symm, answer_cons, if_neg hname.symm]
      rfl
    · rw [hsize] at hcount
      exact Nat.add_left_cancel hcount

end Region

end FuncMeta
