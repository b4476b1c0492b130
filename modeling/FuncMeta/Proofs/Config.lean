import FuncMeta.Config
import FuncMeta.Proofs.Image.Naming
import FuncMeta.Proofs.Json.Record

/-!
# Saved configurations

A configuration that is written to a file is loaded from it, if it is valid. Fields that are missing
in the file have their defaults, and members that are no fields do not count. Main statement:
`load_of_any_saved`.
-/

namespace FuncMeta.Config

open Json (IsGap IsObject IsValue Fills Layout Reads)

variable {c : Config} {kept given given' : String → Bool} {member : String × Json}
  {texts foreign : List (String × List Char)} {object : List Char}

/-- The names of the fields. -/
def fieldNames : List String := fields.map (·.name)

/-- The members of the object that a configuration is saved as. -/
def members (c : Config) : List (String × Json) :=
  [("base_address", .ofOption (fun a ↦ .nat a.toNat) c.baseAddress),
   ("section_names", .list (c.sectionNames.map .text)),
   ("use_index", .bool c.useIndex),
   ("address_width", .nat c.addressWidth.toNat)]

private theorem toJson_eq (c : Config) : c.toJson = .object c.members := rfl

/-- The configuration with only some of its fields, and the others at their defaults. -/
def keeping (c : Config) (kept : String → Bool) : Config :=
  let defaults : Config := {}
  { baseAddress := if kept "base_address" then c.baseAddress else defaults.baseAddress
    sectionNames := if kept "section_names" then c.sectionNames else defaults.sectionNames
    useIndex := if kept "use_index" then c.useIndex else defaults.useIndex
    addressWidth := if kept "address_width" then c.addressWidth else defaults.addressWidth }

/-- What loading a configuration comes to: itself if it is valid, and else its first defect. -/
def verdict (c : Config) : Except LoadError Config :=
  match c.defect? with
  | some defect => .error (.invalid defect)
  | none => .ok c

/-- Those members of a saved configuration that are kept, with the texts of their values. -/
def savedTexts (c : Config) (kept : String → Bool) (layout : Layout) (depth : Nat) :
    List (String × List Char) :=
  (c.members.filter fun member ↦ kept member.1).map fun member ↦
    (member.1, Json.write layout depth member.2)

/-- A member that is no field, with any value that is not nested too deeply. -/
def IsForeign (text : String × List Char) : Prop :=
  text.1 ∉ fieldNames ∧ IsValue (Json.maxDepth - 1) text.2

/-- The members of a saved configuration of which some are dropped and to which others are added, in
any order. -/
def IsEdit (c : Config) (kept : String → Bool) (texts : List (String × List Char)) : Prop :=
  ∃ layout depth foreign, texts.Perm (c.savedTexts kept layout depth ++ foreign) ∧
    ∀ text ∈ foreign, IsForeign text

/-! ### The draft of a configuration -/

/-- The draft that has some fields of a configuration. -/
def draftOf (c : Config) (given : String → Bool) : Draft where
  baseAddress := if given "base_address" then some c.baseAddress else none
  sectionNames := if given "section_names" then some c.sectionNames else none
  useIndex := if given "use_index" then some c.useIndex else none
  addressWidth := if given "address_width" then some c.addressWidth else none

private theorem complete_draftOf (c : Config) (given : String → Bool) :
    (c.draftOf given).complete = c.keeping given := by
  have hgetD {α : Type} (b : Bool) (a default : α) :
      (if b then some a else none).getD default = if b then a else default := by
    cases b <;> rfl
  simp only [Draft.complete, draftOf, keeping, hgetD]

private theorem draftOf_congr (h : ∀ name ∈ fieldNames, given name = given' name) :
    c.draftOf given = c.draftOf given' := by
  have hall : given "base_address" = given' "base_address" ∧
      given "section_names" = given' "section_names" ∧ given "use_index" = given' "use_index" ∧
      given "address_width" = given' "address_width" :=
    ⟨h _ (by decide), h _ (by decide), h _ (by decide), h _ (by decide)⟩
  simp only [draftOf, hall]

/-- A saved member is read as its field, which the draft has from then on. -/
theorem exists_field (hmember : member ∈ c.members) (layout : Layout) (depth : Nat) :
    ∃ field set, fields.find? (·.name == member.1) = some field ∧
      (∀ given, field.isSet (c.draftOf given) = given member.1) ∧
      Reads field.read (Json.write layout depth member.2) set ∧
      ∀ given, set (c.draftOf given) = c.draftOf fun name ↦ given name || member.1 == name := by
  have hsome {α : Type} (b : Bool) (a : α) : (if b then some a else none).isSome = b := by
    cases b <;> rfl
  simp only [members, List.mem_cons, List.not_mem_nil, or_false] at hmember
  rcases hmember with rfl | rfl | rfl | rfl
  · have hread := Json.reads_write_ofOption layout depth Address.value c.baseAddress
    have hset := hread.map fun word (d : Draft) ↦ { d with baseAddress := some (word.map .mk) }
    refine ⟨_, _, rfl, fun _ ↦ hsome _ _, hset, fun given ↦ ?_⟩
    have hsame : (c.baseAddress.map Address.value).map Address.mk = c.baseAddress := by
      cases c.baseAddress <;> rfl
    simp [draftOf, hsame]
  · have hread := Json.reads_write_texts layout depth c.sectionNames
    have hset := hread.map fun names (d : Draft) ↦ { d with sectionNames := some names }
    refine ⟨_, _, rfl, fun _ ↦ hsome _ _, hset, fun given ↦ ?_⟩
    simp [draftOf]
  · have hread := Json.reads_write_bool layout depth c.useIndex
    have hset := hread.map fun value (d : Draft) ↦ { d with useIndex := some value }
    refine ⟨_, _, rfl, fun _ ↦ hsome _ _, hset, fun given ↦ ?_⟩
    simp [draftOf]
  · have hread := Json.reads_write_nat layout depth c.addressWidth
    have hset := hread.map fun word (d : Draft) ↦ { d with addressWidth := some word }
    refine ⟨_, _, rfl, fun _ ↦ hsome _ _, hset, fun given ↦ ?_⟩
    simp [draftOf]

/-! ### Reading an edited object -/

section

variable {layout : Layout} {depth : Nat}

private theorem draftOf_or_of_not_mem {name : String} (hname : name ∉ fieldNames) :
    (c.draftOf fun name' ↦ given name' || (name == name' || given' name')) =
      c.draftOf fun name' ↦ given name' || given' name' := by
  refine draftOf_congr fun name' hname' ↦ ?_
  have hne : name ≠ name' := fun heq ↦ hname (heq ▸ hname')
  rw [beq_eq_false_iff_ne.mpr hne, Bool.false_or]

private theorem find?_eq_none {name : String} (hname : name ∉ fieldNames) :
    fields.find? (·.name == name) = none := by
  rw [List.find?_eq_none]
  intro field hfield heq
  exact hname (List.mem_map.mpr ⟨field, hfield, beq_iff_eq.mp heq⟩)

/-- The members of an edited object give a draft the fields that they are. -/
theorem fills_draftOf (given : String → Bool)
    (hmembers : ∀ text ∈ texts,
      (∃ member ∈ c.members, text = (member.1, Json.write layout depth member.2)) ∨ IsForeign text)
    (honce : texts.Pairwise fun text text' ↦ text.1 = text'.1 → text.1 ∉ fieldNames)
    (hfree : ∀ text ∈ texts, text.1 ∈ fieldNames → given text.1 = false) :
    Fills fields texts (c.draftOf given)
      (c.draftOf fun name ↦ given name || texts.any (·.1 == name)) := by
  -- `given` collects the fields that stand in front of the members that are left.
  induction texts generalizing given with
  | nil =>
    simp only [List.any_nil, Bool.or_false]
    exact .nil _
  | cons text texts ih =>
    obtain ⟨htext, hothers⟩ := List.forall_mem_cons.mp hmembers
    obtain ⟨hdistinct, hrest⟩ := List.pairwise_cons.mp honce
    obtain ⟨hgiven, hfrees⟩ := List.forall_mem_cons.mp hfree
    rcases htext with ⟨member, hmember, rfl⟩ | hforeign
    · have hname : member.1 ∈ fieldNames := List.mem_map_of_mem (f := Prod.fst) hmember
      obtain ⟨field, set, hfind, hset, hread, hdraft⟩ := exists_field hmember layout depth
      have hisSet : field.isSet (c.draftOf given) = false := by
        rw [hset]
        exact hgiven hname
      have hlater : ∀ text ∈ texts, text.1 ∈ fieldNames →
          (given text.1 || member.1 == text.1) = false := by
        intro text htext hfield
        have hne : member.1 ≠ text.1 := fun heq ↦ hdistinct text htext heq hname
        rw [hfrees text htext hfield, beq_eq_false_iff_ne.mpr hne, Bool.false_or]
      have hfills := ih (fun name ↦ given name || member.1 == name) hothers hrest hlater
      rw [← hdraft] at hfills
      simp only [List.any_cons, ← Bool.or_assoc]
      exact .field hfind hisSet hread hfills
    · simp only [List.any_cons, draftOf_or_of_not_mem hforeign.1]
      exact .foreign (find?_eq_none hforeign.1) hforeign.2 (ih given hothers hrest hfrees)

private theorem names_savedTexts (c : Config) (kept : String → Bool) (layout : Layout)
    (depth : Nat) :
    (c.savedTexts kept layout depth).map Prod.fst = fieldNames.filter kept := by
  rw [savedTexts, List.map_map]
  show (c.members.filter (kept ∘ Prod.fst)).map Prod.fst = _
  rw [← List.filter_map]
  rfl

private theorem pairwise_savedTexts :
    (c.savedTexts kept layout depth).Pairwise fun text text' ↦ text.1 ≠ text'.1 := by
  have hnodup : fieldNames.Nodup := by decide
  have hkept := hnodup.sublist (List.filter_sublist (p := kept))
  rw [← names_savedTexts c kept layout depth] at hkept
  exact List.pairwise_map.mp hkept

private theorem saved_or_foreign (hperm : texts.Perm (c.savedTexts kept layout depth ++ foreign))
    (hforeign : ∀ text ∈ foreign, IsForeign text) :
    ∀ text ∈ texts,
      (∃ member ∈ c.members, text = (member.1, Json.write layout depth member.2)) ∨
        IsForeign text := by
  intro text htext
  rcases List.mem_append.mp (hperm.mem_iff.mp htext) with htext | htext
  · obtain ⟨member, hmember, rfl⟩ := List.mem_map.mp htext
    exact .inl ⟨member, List.mem_of_mem_filter hmember, rfl⟩
  · exact .inr (hforeign text htext)

/-- No field occurs twice in an edited object, wherever its members stand. -/
theorem pairwise_of_perm (hperm : texts.Perm (c.savedTexts kept layout depth ++ foreign))
    (hforeign : ∀ text ∈ foreign, IsForeign text) :
    texts.Pairwise fun text text' ↦ text.1 = text'.1 → text.1 ∉ fieldNames := by
  rw [hperm.pairwise_iff fun h heq ↦ heq ▸ h heq.symm, List.pairwise_append]
  refine ⟨pairwise_savedTexts.imp fun hne heq ↦ absurd heq hne, ?_, ?_⟩
  · exact List.pairwise_of_forall_mem_list fun text htext _ _ _ ↦ (hforeign text htext).1
  · intro text _ text' htext' heq
    rw [heq]
    exact (hforeign text' htext').1

/-- An edited object has just those fields that are kept. -/
theorem any_eq_kept (hperm : texts.Perm (c.savedTexts kept layout depth ++ foreign))
    (hforeign : ∀ text ∈ foreign, IsForeign text) :
    ∀ name ∈ fieldNames, texts.any (·.1 == name) = kept name := by
  intro name hname
  have hnames := names_savedTexts c kept layout depth
  rw [Bool.eq_iff_iff, List.any_eq_true]
  constructor
  · rintro ⟨text, htext, heq⟩
    obtain rfl := beq_iff_eq.mp heq
    rcases List.mem_append.mp (hperm.mem_iff.mp htext) with htext | htext
    · have hmem := List.mem_map_of_mem (f := Prod.fst) htext
      rw [hnames] at hmem
      exact (List.mem_filter.mp hmem).2
    · exact absurd hname (hforeign text htext).1
  · intro hkept
    have hmem := List.mem_filter.mpr ⟨hname, hkept⟩
    rw [← hnames] at hmem
    obtain ⟨text, htext, rfl⟩ := List.mem_map.mp hmem
    exact ⟨text, hperm.mem_iff.mpr (List.mem_append_left _ htext), beq_self_eq_true _⟩

end

/-- An edited object is read as the draft with the fields that are kept. -/
theorem IsEdit.fills (h : c.IsEdit kept texts) : Fills fields texts {} (c.draftOf kept) := by
  obtain ⟨layout, depth, foreign, hperm, hforeign⟩ := h
  have hfills := fills_draftOf (fun _ ↦ false) (saved_or_foreign hperm hforeign)
    (pairwise_of_perm hperm hforeign) fun _ _ _ ↦ rfl
  simp only [Bool.false_or] at hfills
  rw [draftOf_congr (any_eq_kept hperm hforeign)] at hfills
  exact hfills

/-! ### Loading -/

/-- A text that holds a configuration is loaded as that if it is valid. -/
theorem load_of_ofJson {text : String} (h : ofJson text = .ok c) :
    load text.toByteArray = c.verdict := by
  have htext : textOf text.toByteArray = .ok text := by
    rw [textOf, Image.fromUTF8?_toByteArray]
  rw [load, htext]
  show ((ofJson text).mapError LoadError.parse >>= _) = _
  rw [h]
  rfl

/-- An edited configuration is read with its dropped fields at their defaults. -/
theorem IsEdit.ofJson_eq {front back : List Char} (h : c.IsEdit kept texts)
    (hobject : IsObject texts object) (hfront : IsGap front) (hback : IsGap back) :
    ofJson (.ofList (front ++ (object ++ back))) = .ok (c.keeping kept) := by
  rw [ofJson, Json.readAll_of_reads (.record hobject h.fills) hfront hback, ← complete_draftOf]
  rfl

private theorem isEdit_saved (c : Config) (layout : Layout) :
    c.IsEdit (fun _ ↦ true) (c.members.map fun m ↦ (m.1, Json.write layout 1 m.2)) := by
  refine ⟨layout, 1, [], ?_, List.forall_mem_nil _⟩
  rw [savedTexts, List.filter_true, List.append_nil]

/-- A saved configuration is read back, valid or not. -/
theorem ofJson_render (c : Config) (layout : Layout) : ofJson (c.toJson.render layout) = .ok c := by
  have hobject := Json.isObject_write layout 0 c.members
  rw [ofJson, toJson_eq, Json.readAll_render (.record hobject (isEdit_saved c layout).fills)]
  rfl

/-- Only valid configurations are loaded. -/
theorem defect?_of_load {bytes : ByteArray} (h : load bytes = .ok c) : c.defect? = none := by
  simp only [load, bind, Except.bind] at h
  split at h
  · cases h
  · split at h
    · cases h
    · split at h
      · cases h
      · next hdefect =>
        cases h
        exact hdefect

/-- A saved configuration is loaded as itself if it is valid, and is refused for its first defect
otherwise. Without some of its fields, and with other members among them, it is loaded as if the
fields that are missing had their defaults. What is loaded is always valid. -/
theorem load_of_any_saved (c : Config) :
    (∀ layout, load (c.toJson.render layout).toByteArray = c.verdict) ∧
    (∀ kept texts object front back, c.IsEdit kept texts → IsObject texts object → IsGap front →
      IsGap back →
        load (String.ofList (front ++ (object ++ back))).toByteArray = (c.keeping kept).verdict) ∧
    ∀ bytes loaded, load bytes = .ok loaded → loaded.defect? = none := by
  refine ⟨fun layout ↦ load_of_ofJson (c.ofJson_render layout), ?_,
    fun bytes loaded h ↦ defect?_of_load h⟩
  intro kept texts object front back hedit hobject hfront hback
  exact load_of_ofJson (hedit.ofJson_eq hobject hfront hback)

/-- A configuration with too wide addresses is refused. Without that field, and with a member among
the others that is no field, it is loaded. -/
theorem load_of_any_saved_sample :
    let c : Config := { sectionNames := ["\"\n"], useIndex := true, addressWidth := 17 }
    load (c.toJson.render .pretty).toByteArray = .error (.invalid .addressWidth) ∧
      load "\x7b\"note\" : [-1.5e+3],\"section_names\":[\"\\\"\\n\"]\x7d".toByteArray =
        .ok { sectionNames := ["\"\n"] } := by
  intro c
  have hdigit (d : Char) (hd : d.isDigit = true) : Json.IsDigitRun [d] :=
    ⟨List.cons_ne_nil _ _, List.forall_mem_singleton.mpr hd⟩
  have hnumber : Json.IsScalar "-1.5e+3".toList :=
    @Json.IsScalar.negative ['1'] ['.', '5'] ['e', '+', '3']
      (.digits (hdigit '1' rfl) (by decide)) (.digits (hdigit '5' rfl))
      (.digits (.inl rfl) (.inr (.inl rfl)) (hdigit '3' rfl))
  have hvalue : IsValue (Json.maxDepth - 1) "[-1.5e+3]".toList :=
    .inr ⟨.list, ["-1.5e+3".toList],
      @Json.IsBracketed.items .list _ [] _ [] Json.isGap_nil Json.isGap_nil (.last _),
      List.forall_mem_singleton.mpr ⟨[], _, rfl, .list, .inl hnumber⟩⟩
  have hedit : c.IsEdit (· == "section_names")
      [("note", "[-1.5e+3]".toList), ("section_names", "[\"\\\"\\n\"]".toList)] := by
    refine ⟨.compact, 1, [("note", "[-1.5e+3]".toList)], .swap _ _ [], ?_⟩
    exact List.forall_mem_singleton.mpr ⟨by decide, hvalue⟩
  have hobject : IsObject
      [("note", "[-1.5e+3]".toList), ("section_names", "[\"\\\"\\n\"]".toList)]
      "\x7b\"note\" : [-1.5e+3],\"section_names\":[\"\\\"\\n\"]\x7d".toList := by
    have hspace : IsGap [' '] := List.forall_mem_singleton.mpr rfl
    have hitems := @Json.AreSeparated.next "\"note\" : [-1.5e+3]".toList _ [] [] _
      Json.isGap_nil Json.isGap_nil (.last "\"section_names\":[\"\\\"\\n\"]".toList)
    refine ⟨_, @Json.IsBracketed.items .object _ [] _ [] Json.isGap_nil Json.isGap_nil hitems,
      .cons ?_ (.cons ?_ .nil)⟩
    · exact ⟨_, [' '], [' '], Json.spells_quote "note", hspace, hspace, rfl⟩
    · exact ⟨_, [], [], Json.spells_quote "section_names", Json.isGap_nil, Json.isGap_nil, rfl⟩
  obtain ⟨hsaved, hedited, -⟩ := load_of_any_saved c
  refine ⟨hsaved .pretty, ?_⟩
  have hloaded := hedited _ _ _ [] [] hedit hobject Json.isGap_nil Json.isGap_nil
  rw [List.nil_append, List.append_nil, String.ofList_toList] at hloaded
  exact hloaded

end FuncMeta.Config
