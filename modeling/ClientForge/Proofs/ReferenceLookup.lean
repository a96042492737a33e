import ClientForge.Proofs.CurationFailure
import ClientForge.Proofs.LowerStable

/-!
What a reference finds, told by the document alone. A reference names a key; the document may hold
several components of one key, since `a/b/c` is both `b/c` of the group `a` and `c` of the group
`a/b`, and then the last one counts. It is found as it stands in the document, up to the name of its
type.

Results:
1. `names_iff`: the key that a reference names.
2. `component?_eq_some_iff`, `component?_eq_none_iff`: a key leads to the last component that has
   it, and to nothing if none has it.
3. `normalizes_iff`: normalising replaces the type where it stands and keeps everything else.
4. `length_ofRows`: a table has one row for each key.
5. `ofDocument_finds`: what the table of a document finds, and how large it is.
-/

namespace ClientForge

/-! ## Tables -/

namespace Table

variable {κ α : Type} [DecidableEq κ]

theorem insert_of_first {key : κ} {before after : List (κ × α)} (hfirst : key ∉ before.map Prod.fst)
    (old new : α) :
    insert key new (before ++ (key, old) :: after) = before ++ (key, new) :: after := by
  induction before with
  | nil => exact if_pos rfl
  | cons row before ih =>
    rw [List.map_cons, List.mem_cons, not_or] at hfirst
    rw [List.cons_append, insert, if_neg (Ne.symm hfirst.1), ih hfirst.2, List.cons_append]

theorem mem_keys_insert {key k : κ} {value : α} {table : List (κ × α)} :
    k ∈ (insert key value table).map Prod.fst ↔ k = key ∨ k ∈ table.map Prod.fst := by
  induction table with
  | nil => exact List.mem_cons
  | cons row rest ih =>
    rw [insert]
    by_cases hrow : row.1 = key
    · rw [if_pos hrow, List.map_cons, List.map_cons, List.mem_cons, hrow, or_self_left]
    · rw [if_neg hrow, List.map_cons, List.map_cons, List.mem_cons, List.mem_cons, ih, or_left_comm]

theorem nodup_keys_insert (key : κ) (value : α) {table : List (κ × α)}
    (h : (table.map Prod.fst).Nodup) : ((insert key value table).map Prod.fst).Nodup := by
  induction table with
  | nil => exact List.nodup_singleton key
  | cons row rest ih =>
    obtain ⟨hnew, hrest⟩ := List.nodup_cons.mp h
    rw [insert]
    by_cases hrow : row.1 = key
    · rw [if_pos hrow]
      exact List.nodup_cons.mpr ⟨hnew, hrest⟩
    · rw [if_neg hrow]
      refine List.nodup_cons.mpr ⟨fun hmem => ?_, ih hrest⟩
      rcases mem_keys_insert.mp hmem with heq | hmem
      · exact hrow heq
      · exact hnew hmem

/-- A table has the keys of its rows, each once. -/
theorem keys_ofRows (rows : List (κ × α)) :
    ((ofRows rows).map Prod.fst).Nodup ∧
      ∀ k, k ∈ (ofRows rows).map Prod.fst ↔ k ∈ rows.map Prod.fst := by
  have onto (table : List (κ × α)) (h : (table.map Prod.fst).Nodup) :
      ((rows.foldl (fun table row => insert row.1 row.2 table) table).map Prod.fst).Nodup ∧
        ∀ k, k ∈ (rows.foldl (fun table row => insert row.1 row.2 table) table).map Prod.fst ↔
          k ∈ table.map Prod.fst ∨ k ∈ rows.map Prod.fst := by
    induction rows generalizing table with
    | nil => exact ⟨h, fun k => by simp⟩
    | cons row rows ih =>
      obtain ⟨hnodup, hkeys⟩ := ih _ (nodup_keys_insert row.1 row.2 h)
      refine ⟨hnodup, fun k => (hkeys k).trans ?_⟩
      rw [mem_keys_insert, List.map_cons, List.mem_cons, or_assoc, or_left_comm]
  obtain ⟨hnodup, hkeys⟩ := onto [] List.nodup_nil
  exact ⟨hnodup, fun k => (hkeys k).trans (or_iff_right List.not_mem_nil)⟩

/-- A table has one row for each key. -/
theorem length_ofRows (rows : List (κ × α)) :
    (ofRows rows).length = {key | key ∈ rows.map Prod.fst}.ncard := by
  obtain ⟨hnodup, hkeys⟩ := keys_ofRows rows
  rw [← List.length_map Prod.fst, ← List.toFinset_card_of_nodup hnodup, ← Set.ncard_coe_finset]
  congr 1
  ext key
  rw [Finset.mem_coe, List.mem_toFinset, hkeys, Set.mem_ofPred_eq]

end Table

namespace Api.ReferenceTable

/-! ## Definitions -/

/-- The key that a reference names: what follows `#/components/`, or else the reference itself. -/
inductive Names : String → String → Prop
  | full (key : String) : Names ("#/components/" ++ key) key
  | short {reference : String} :
      (∀ key, reference ≠ "#/components/" ++ key) → Names reference reference

/-- The document has a component of this key, in a group that is an object. -/
inductive HasComponent (document : Json) : String → Json → Prop
  | mk {groups members : List (String × Json)} {group name : String} {component : Json} :
      document.object? "components" = some groups → (group, .object members) ∈ groups →
      (name, component) ∈ members → HasComponent document (group ++ "/" ++ name) component

/-- The last such component: none of its key follows, neither in its own group nor in a later one. -/
inductive LastComponent (document : Json) : String → Json → Prop
  | mk {earlier later before after : List (String × Json)} {group name : String}
      {component : Json} :
      document.object? "components" =
        some (earlier ++ (group, .object (before ++ (name, component) :: after)) :: later) →
      (∀ row ∈ after, group ++ "/" ++ row.1 ≠ group ++ "/" ++ name) →
      (∀ group' members, (group', .object members) ∈ later →
        ∀ row ∈ members, group' ++ "/" ++ row.1 ≠ group ++ "/" ++ name) →
      LastComponent document (group ++ "/" ++ name) component

/-- The second component is the first one with the name of its type normalised, in its place. -/
inductive Normalizes : Json → Json → Prop
  | typed {before after : List (String × Json)} {type : String} :
      "type" ∉ before.map Prod.fst →
      Normalizes (.object (before ++ ("type", .string type) :: after))
        (.object (before ++ ("type", .string (semanticType type)) :: after))
  | untyped {component : Json} : component.string? "type" = none → Normalizes component component

/-! ## Keys -/

theorem root_eq : "#/components/".toList = root := by decide +kernel

theorem key_full (k : String) : key ("#/components/" ++ k) = k := by
  have hprefix := List.isPrefixOf_iff_prefix.mpr (List.prefix_append root k.toList)
  rw [key, String.toList_append, root_eq, if_pos hprefix, List.drop_left, String.ofList_toList]

/-- The key that a reference names. -/
theorem names_iff {reference k : String} : Names reference k ↔ k = key reference := by
  by_cases hroot : ∃ k', reference = "#/components/" ++ k'
  · obtain ⟨k', rfl⟩ := hroot
    rw [key_full]
    constructor
    · generalize href : "#/components/" ++ k' = reference
      intro h
      cases h with
      | full k => exact (String.append_right_inj "#/components/" |>.mp href).symm
      | short h => exact absurd href.symm (h k')
    · rintro rfl
      exact .full k
  · push Not at hroot
    have hkey : key reference = reference := by
      refine if_neg fun hprefix => ?_
      obtain ⟨rest, hrest⟩ := List.isPrefixOf_iff_prefix.mp hprefix
      refine hroot (String.ofList rest) (String.toList_injective ?_)
      rw [String.toList_append, root_eq, String.toList_ofList, hrest]
    rw [hkey]
    constructor
    · intro h
      cases h with
      | full k => exact absurd rfl (hroot k)
      | short _ => rfl
    · rintro rfl
      exact .short hroot

/-! ## Components -/

/-- The last element of a list that gives a result. -/
theorem findSome?_reverse_eq_some_iff {α β : Type} {f : α → Option β} {xs : List α} {b : β} :
    xs.reverse.findSome? f = some b ↔
      ∃ before x after, xs = before ++ x :: after ∧ f x = some b ∧ ∀ y ∈ after, f y = none := by
  rw [List.findSome?_eq_some_iff]
  constructor
  · rintro ⟨after, x, before, hxs, hx, hafter⟩
    refine ⟨before.reverse, x, after.reverse, ?_, hx, fun y hy => hafter y (List.mem_reverse.mp hy)⟩
    rw [← List.reverse_reverse xs, hxs]
    simp
  · rintro ⟨before, x, after, rfl, hx, hafter⟩
    exact ⟨after.reverse, x, before.reverse, by simp, hx,
      fun y hy => hafter y (List.mem_reverse.mp hy)⟩

theorem lookup_reverse_flatMap {α β κ : Type} [BEq κ] (f : α → List (κ × β)) (xs : List α) (k : κ) :
    (xs.flatMap f).reverse.lookup k = xs.reverse.findSome? fun x => (f x).reverse.lookup k := by
  induction xs with
  | nil => rfl
  | cons x xs ih =>
    rw [List.flatMap_cons, List.reverse_append, List.lookup_append, ih, List.reverse_cons,
      List.findSome?_append]
    congr 1
    cases h : (f x).reverse.lookup k <;> simp [h]

/-- The last component of a key in one group. -/
def lastIn? (k : String) (group : String × Json) : Option Json :=
  (group.2.asObject?.getD []).reverse.findSome? fun row =>
    if group.1 ++ "/" ++ row.1 = k then some row.2 else none

theorem component?_eq (document : Json) (reference : String) :
    component? document reference =
      ((document.object? "components").getD []).reverse.findSome? (lastIn? (key reference)) := by
  rw [component?, written, lookup_reverse_flatMap]
  congr 1
  funext group
  rw [← List.map_reverse, List.lookup_eq_findSome?, List.findSome?_map, lastIn?]
  congr 1
  funext row
  exact if_congr (beq_iff_eq.trans eq_comm) rfl rfl

theorem lastIn?_eq_some_iff {k group : String} {value component : Json} :
    lastIn? k (group, value) = some component ↔ ∃ before name after,
      value = .object (before ++ (name, component) :: after) ∧ group ++ "/" ++ name = k ∧
        ∀ row ∈ after, group ++ "/" ++ row.1 ≠ k := by
  cases value with
  | object members =>
    rw [lastIn?, findSome?_reverse_eq_some_iff]
    constructor
    · rintro ⟨before, ⟨name, c⟩, after, hmembers, hc, hafter⟩
      obtain ⟨hkey, hc⟩ := Option.ite_none_right_eq_some.mp hc
      obtain rfl : c = component := Option.some.inj hc
      exact ⟨before, name, after, congrArg Json.object hmembers, hkey, fun row hrow hk =>
        absurd (hafter row hrow) (by simp [hk])⟩
    · rintro ⟨before, name, after, hvalue, hkey, hafter⟩
      exact ⟨before, (name, component), after, Json.object.inj hvalue, if_pos hkey,
        fun row hrow => if_neg (hafter row hrow)⟩
  | _ => simp [lastIn?, Json.asObject?]

theorem lastIn?_eq_none_iff {k group : String} {value : Json} :
    lastIn? k (group, value) = none ↔
      ∀ members, value = .object members → ∀ row ∈ members, group ++ "/" ++ row.1 ≠ k := by
  cases value with
  | object members =>
    rw [lastIn?, List.findSome?_eq_none_iff]
    constructor
    · rintro hnone _ ⟨⟩ row hrow hk
      exact absurd (hnone row (List.mem_reverse.mpr hrow)) (by simp [hk])
    · intro hnone row hrow
      exact if_neg (hnone members rfl row (List.mem_reverse.mp hrow))
  | _ => simp [lastIn?, Json.asObject?]

/-- A key leads to the last component that has it. -/
theorem component?_eq_some_iff {document component : Json} {reference : String} :
    component? document reference = some component ↔
      LastComponent document (key reference) component := by
  rw [component?_eq, findSome?_reverse_eq_some_iff]
  constructor
  · rintro ⟨earlier, ⟨group, value⟩, later, hgroups, hlast, hlater⟩
    obtain ⟨before, name, after, rfl, hkey, hafter⟩ := lastIn?_eq_some_iff.mp hlast
    have hfields : document.object? "components" =
        some (earlier ++ (group, .object (before ++ (name, component) :: after)) :: later) := by
      cases hcomponents : document.object? "components" with
      | none => simp [hcomponents] at hgroups
      | some groups => rw [← hgroups, hcomponents, Option.getD_some]
    rw [← hkey] at hafter hlater ⊢
    exact .mk hfields hafter fun group' members hmem =>
      lastIn?_eq_none_iff.mp (hlater _ hmem) members rfl
  · generalize key reference = k
    rintro ⟨hfields, hafter, hlater⟩
    rw [hfields, Option.getD_some]
    refine ⟨_, _, _, rfl, lastIn?_eq_some_iff.mpr ⟨_, _, _, rfl, rfl, hafter⟩, ?_⟩
    rintro ⟨group', value⟩ hmem
    refine lastIn?_eq_none_iff.mpr ?_
    rintro members rfl
    exact hlater group' members hmem

/-- It leads to nothing if no component has it. -/
theorem component?_eq_none_iff {document : Json} {reference : String} :
    component? document reference = none ↔
      ∀ component, ¬ HasComponent document (key reference) component := by
  rw [component?_eq, List.findSome?_eq_none_iff]
  constructor
  · generalize key reference = k
    rintro hnone component ⟨hgroups, hgroup, hmem⟩
    rw [hgroups, Option.getD_some] at hnone
    exact lastIn?_eq_none_iff.mp (hnone _ (List.mem_reverse.mpr hgroup)) _ rfl _ hmem rfl
  · rintro hnone ⟨group, value⟩ hgroup
    refine lastIn?_eq_none_iff.mpr ?_
    rintro members rfl ⟨name, component⟩ hmem hkey
    cases hcomponents : document.object? "components" with
    | none => simp [hcomponents] at hgroup
    | some groups =>
      rw [hcomponents, Option.getD_some, List.mem_reverse] at hgroup
      exact hnone component (hkey ▸ .mk hcomponents hgroup hmem)

theorem mem_keys_written {document : Json} {k : String} :
    k ∈ (written document).map Prod.fst ↔ ∃ component, HasComponent document k component := by
  constructor
  · intro hk
    obtain ⟨⟨_, component⟩, hrow, rfl⟩ := List.mem_map.mp hk
    obtain ⟨⟨group, value⟩, hgroup, hrow⟩ := List.mem_flatMap.mp hrow
    obtain ⟨⟨name, _⟩, hmem, hrow⟩ := List.mem_map.mp hrow
    cases hrow
    cases hcomponents : document.object? "components" with
    | none => simp [hcomponents] at hgroup
    | some groups =>
      rw [hcomponents, Option.getD_some] at hgroup
      cases value with
      | object members => exact ⟨component, .mk hcomponents hgroup hmem⟩
      | _ => cases hmem
  · rintro ⟨component, @⟨groups, members, group, name, _, hgroups, hgroup, hmem⟩⟩
    have hrow : (group ++ "/" ++ name, component) ∈ written document := by
      rw [written, hgroups, Option.getD_some]
      exact List.mem_flatMap.mpr ⟨_, hgroup, List.mem_map.mpr ⟨_, hmem, rfl⟩⟩
    exact List.mem_map_of_mem hrow

/-! ## Normalised components -/

theorem normalizeComponent_typed {before after : List (String × Json)} {type : String}
    (hfirst : "type" ∉ before.map Prod.fst) :
    normalizeComponent (.object (before ++ ("type", .string type) :: after)) =
      .object (before ++ ("type", .string (semanticType type)) :: after) := by
  have htype : Json.string? (.object (before ++ ("type", .string type) :: after)) "type" =
      some type := by
    have hlookup : (before ++ ("type", Json.string type) :: after).lookup "type" =
        some (.string type) :=
      List.lookup_eq_some_iff.mpr ⟨before, after, rfl, fun row hrow => by
        rw [bne_iff_ne]
        rintro heq
        exact hfirst (heq ▸ List.mem_map_of_mem hrow)⟩
    rw [Json.string?, Json.get?, hlookup]
    rfl
  rw [normalizeComponent, htype]
  exact congrArg Json.object (Table.insert_of_first hfirst _ _)

theorem normalizeComponent_untyped {component : Json} (h : component.string? "type" = none) :
    normalizeComponent component = component := by
  cases component with
  | object fields => rw [normalizeComponent, h]
  | _ => rfl

theorem normalizes_normalizeComponent (component : Json) :
    Normalizes component (normalizeComponent component) := by
  cases htype : component.string? "type" with
  | none =>
    rw [normalizeComponent_untyped htype]
    exact .untyped htype
  | some type =>
    obtain ⟨value, hvalue, hstring⟩ := Option.bind_eq_some_iff.mp htype
    cases component with
    | object fields =>
      obtain ⟨before, after, rfl, hbefore⟩ := List.lookup_eq_some_iff.mp hvalue
      cases value with
      | string declared =>
        have hfirst : "type" ∉ before.map Prod.fst := by
          intro hmem
          obtain ⟨row, hrow, heq⟩ := List.mem_map.mp hmem
          exact bne_iff_ne.mp (hbefore row hrow) heq.symm
        rw [normalizeComponent_typed hfirst]
        exact .typed hfirst
      | _ => cases hstring
    | _ => cases hvalue

/-- Normalising replaces the type where it stands and keeps everything else. -/
theorem normalizes_iff {component definition : Json} :
    Normalizes component definition ↔ definition = normalizeComponent component := by
  constructor
  · intro h
    cases h with
    | typed hfirst => exact (normalizeComponent_typed hfirst).symm
    | untyped htype => exact (normalizeComponent_untyped htype).symm
  · rintro rfl
    exact normalizes_normalizeComponent component

theorem Normalizes.settled {component definition : Json} (h : Normalizes component definition) :
    normalizeComponent definition = definition := by
  cases h with
  | typed hfirst => rw [normalizeComponent_typed hfirst, semanticType_semanticType]
  | untyped htype => exact normalizeComponent_untyped htype

/-! ## Results -/

/-- What the table of the document makes of the reference: it finds the last component of the key,
normalised, which a second time changes nothing, and is missing it exactly if there is none. -/
structure Finds (document : Json) (reference : String) : Prop where
  found_iff : ∀ definition, (ofDocument document).find? reference = some definition ↔
    ∃ key component, Names reference key ∧ LastComponent document key component ∧
      Normalizes component definition
  missing_iff : (ofDocument document).find? reference = none ↔
    ∀ key component, Names reference key → ¬ HasComponent document key component
  required_iff : ∀ definition, (ofDocument document).require reference = .ok definition ↔
    (ofDocument document).find? reference = some definition
  unresolved_iff : ∀ failure, (ofDocument document).require reference = .error failure ↔
    (ofDocument document).find? reference = none ∧ failure = .unresolvedReference reference
  settled : ∀ definition, (ofDocument document).find? reference = some definition →
    normalizeComponent definition = definition ∧
      ∀ type, definition.string? "type" = some type → semanticType type = type

theorem finds (document : Json) (reference : String) : Finds document reference := by
  have hfound (definition : Json) : (ofDocument document).find? reference = some definition ↔
      ∃ component, LastComponent document (key reference) component ∧
        Normalizes component definition := by
    rw [find?_ofDocument, Option.map_eq_some_iff]
    simp only [component?_eq_some_iff, normalizes_iff, eq_comm (b := definition)]
  refine ⟨fun definition => ?_, ?_, fun definition => ?_, fun _ => Curation.require_eq_error_iff,
    fun definition hdefinition => ?_⟩
  · simp only [hfound, names_iff, exists_and_left, exists_eq_left]
  · rw [find?_ofDocument, Option.map_eq_none_iff, component?_eq_none_iff]
    simp only [names_iff]
    exact ⟨fun h _ component hkey => hkey ▸ h component, fun h component => h _ component rfl⟩
  · rw [require]
    cases (ofDocument document).find? reference <;> simp
  · obtain ⟨component, _, hnormalizes⟩ := (hfound definition).mp hdefinition
    refine ⟨hnormalizes.settled, fun type htype => ?_⟩
    have hagain := string?_type_normalizeComponent definition
    rw [hnormalizes.settled, htype] at hagain
    exact (Option.some.inj hagain).symm

/-- What the table of a document finds, and how large it is. -/
theorem ofDocument_finds (document : Json) :
    (∀ reference, Finds document reference) ∧
      (ofDocument document).size =
        {key | ∃ component, HasComponent document key component}.ncard := by
  refine ⟨finds document, ?_⟩
  have hkeys : (components document).map Prod.fst = (written document).map Prod.fst := by
    rw [components_eq, List.map_map]
    rfl
  rw [size, ofDocument, Table.length_ofRows, hkeys]
  simp only [mem_keys_written]

/-- Two components of one key. -/
def sharedKeyDocument : Json :=
  .object [("components", .object
    [("a", .object [("b/c", .object [("type", .string "integer")])]),
     ("a/b", .object [("c", .object [("x", .null), ("type", .string " String")])])])]

example : (ofDocument sharedKeyDocument).find? "#/components/a/b/c" =
      some (.object [("x", .null), ("type", .string "str")]) ∧
    (ofDocument sharedKeyDocument).size = 1 := by
  cbv

end Api.ReferenceTable

end ClientForge
