import Mathlib.Data.Set.Subsingleton
import Mathlib.Order.Bounds.Basic
import Mathlib.Order.Nat
import DomainTables.Proofs.Dependencies
import DomainTables.Reference.Resolution

/-!
# The first level with a match

Which names match at a level is told without a search (`matchingNames`): those that have words left
there and whose rest a form of the property's name is, or ends with. What a property means is then
decided by the first level within the limit at which any name matches, and a resolution reports the
names of that level (`Resolution.Reports`): none, one, or several in ascending order.

The search looks at one level after another. If nothing matches at a level, the first level with a
match is the same from there on (`firstMatches_succ`). If no name has words left, nothing matches at
any later level either (`matchingNames_eq_empty`), so ending the search there loses nothing. By
induction on the levels that may still be searched, the search reports the names of the first level
with a match (`reports_searchFrom`), and since a set of names has one report
(`Resolution.Reports.unique`), this determines the outcome (`resolve_eq_iff`).

Hence what a property means is a matter of the set of names (`resolve_congr`), a name that is found
is the only match at some level (`exists_match_of_resolve`), and the three outcomes are told apart
by the first level (`resolve_by_first_level`).
-/

namespace DomainTables

/-! ## Matches without a search -/

/-- A form of a property's name is the name itself, or what an `s` at the end of it leaves, unless
that is nothing. -/
def IsFormOf (form property : String) : Prop :=
  form = property ∨ form ≠ "" ∧ property = form ++ "s"

/-- A name matches without its first `dropped` words if it has more words than that, and if a form
of the property's name is the rest in the spelling of properties, or ends with the rest in the
spelling of objects. -/
def Name.Matches (name : Name) (property : String) (dropped : Nat) : Prop :=
  dropped < name.parts.length ∧
    ∃ form, IsFormOf form property ∧
      (form = (Name.mk (name.parts.drop dropped)).camelCase ∨
        ∃ qualifiers, form = qualifiers ++ (Name.mk (name.parts.drop dropped)).upperCamelCase)

/-- The names of a list that match without their first `dropped` words. -/
def matchingNames (names : List String) (property : String) (dropped : Nat) : Set String :=
  {name | name ∈ names ∧ (Name.ofString name).Matches property dropped}

/-- The forms of a property's name are those that are compared. -/
theorem mem_propertyForms_iff {form property : String} :
    form ∈ propertyForms property ↔ IsFormOf form property := by
  have hstem := @Text.stemBefore?_eq_some_iff property "s"
  unfold propertyForms IsFormOf
  cases hsingular : Text.stemBefore? property "s" with
  | none =>
    have hnone : property ≠ form ++ "s" := by
      intro h
      rw [hstem.mpr h] at hsingular
      cases hsingular
    simp [hnone]
  | some singular =>
    have hproperty : property = singular ++ "s" := hstem.mp hsingular
    -- The plural is unique, so a form is the singular exactly if the property is its plural.
    have hform : property = form ++ "s" ↔ form = singular := by
      rw [← hstem, hsingular, Option.some_inj, eq_comm]
    -- Of the property "s" nothing is left, and an empty form is not compared.
    by_cases hempty : singular = ""
    · simp only [hempty, if_true, List.mem_singleton, hform]
      exact ⟨Or.inl, fun h => h.resolve_right fun h => h.1 h.2⟩
    · simp only [hempty, if_false, List.mem_cons, List.not_mem_nil, or_false, hform]
      refine or_congr_right ⟨fun h => ⟨h ▸ hempty, h⟩, fun h => h.2⟩

/-- A name is meant by forms if one of them is the name, or ends with it. -/
theorem Name.isMeantBy_iff {name : Name} {forms : List String} :
    name.isMeantBy forms = true ↔
      ∃ form ∈ forms, form = name.camelCase ∨
        ∃ qualifiers, form = qualifiers ++ name.upperCamelCase := by
  simp only [isMeantBy, List.any_eq_true, Bool.or_eq_true, beq_iff_eq, Text.endsWith_iff]

/-- Words are left of a name if it has more of them than are left out. -/
theorem Name.dropLeading_eq_some_iff {name rest : Name} {dropped : Nat} :
    name.dropLeading dropped = some rest ↔
      dropped < name.parts.length ∧ rest = ⟨name.parts.drop dropped⟩ := by
  unfold dropLeading
  split
  · next hle => simp [Nat.not_lt.mpr hle]
  · next hlt => simp [Nat.not_le.mp hlt, eq_comm]

/-- A name matches if what is left of it is meant by one of the forms that are compared. -/
theorem Name.matches_iff {name : Name} {property : String} {dropped : Nat} :
    name.Matches property dropped ↔
      ∃ rest, name.dropLeading dropped = some rest ∧
        rest.isMeantBy (propertyForms property) = true := by
  simp only [Matches, dropLeading_eq_some_iff, isMeantBy_iff, mem_propertyForms_iff, and_assoc,
    exists_and_left, exists_eq_left]

section

variable {names names' : List String} {property : String}

/-- The search finds at a level the names that match there. -/
theorem mem_matchesAt_map_iff {dropped : Nat} {name : String} :
    name ∈ Resolution.matchesAt (names.map fun name => (name, Name.ofString name))
        (propertyForms property) dropped ↔
      name ∈ matchingNames names property dropped := by
  simp only [Resolution.matchesAt, List.filterMap_map, List.mem_filterMap, Function.comp_apply,
    matchingNames, Set.mem_ofPred_eq, Name.matches_iff]
  -- Both sides ask for a rest of the name and then for a form of the property that means it.
  constructor
  · rintro ⟨found, hfound, h⟩
    split at h
    · next rest hrest =>
      split at h
      · next hmeant =>
        cases h
        exact ⟨hfound, rest, hrest, hmeant⟩
      · cases h
    · cases h
  · rintro ⟨hname, rest, hrest, hmeant⟩
    refine ⟨name, hname, ?_⟩
    rw [hrest]
    exact if_pos hmeant

/-- Which names match is a matter of the set of names. -/
theorem matchingNames_congr (h : ∀ name, name ∈ names ↔ name ∈ names') (dropped : Nat) :
    matchingNames names property dropped = matchingNames names' property dropped := by
  ext name
  exact and_congr_left fun _ => h name

/-- No words are left exactly if every name has been left out as a whole. -/
theorem anyLeft_map_eq_false_iff {dropped : Nat} :
    Resolution.anyLeft (names.map fun name => (name, Name.ofString name)) dropped = false ↔
      ∀ name ∈ names, (Name.ofString name).parts.length ≤ dropped := by
  simp only [Resolution.anyLeft, List.any_eq_false, List.forall_mem_map,
    Option.not_isSome_iff_eq_none, Name.dropLeading, ite_eq_left_iff, reduceCtorEq, imp_false,
    not_not]

/-- Once all words of all names are left out, nothing matches any more. -/
theorem matchingNames_eq_empty {dropped level : Nat}
    (h : ∀ name ∈ names, (Name.ofString name).parts.length ≤ dropped) (hle : dropped ≤ level) :
    matchingNames names property level = ∅ := by
  refine Set.eq_empty_iff_forall_notMem.mpr ?_
  rintro name ⟨hname, hleft, -⟩
  exact absurd (Nat.lt_of_lt_of_le hleft (h name hname)) (Nat.not_lt.mpr hle)

/-! ## The first level -/

/-- The levels from `first` on, and up to `budget` further ones, at which any name matches. -/
def matchingLevels (names : List String) (property : String) (first budget : Nat) : Set Nat :=
  {level | first ≤ level ∧ level ≤ first + budget ∧ (matchingNames names property level).Nonempty}

/-- The names that match at the first of these levels, none if there is no such level. -/
def firstMatches (names : List String) (property : String) (first budget : Nat) : Set String :=
  {name | ∃ level, IsLeast (matchingLevels names property first budget) level ∧
    name ∈ matchingNames names property level}

/-- The first level with a match gives the first matches. -/
theorem firstMatches_eq_of_isLeast {first budget level : Nat}
    (h : IsLeast (matchingLevels names property first budget) level) :
    firstMatches names property first budget = matchingNames names property level := by
  ext name
  constructor
  · rintro ⟨level', h', hname⟩
    exact h'.unique h ▸ hname
  · exact fun hname => ⟨level, h, hname⟩

/-- What is not true of no names is true of the first matches exactly if it is true of the names at
some first level. -/
theorem firstMatches_iff_exists_isLeast {p : Set String → Prop} (hempty : ¬ p ∅)
    {first budget : Nat} :
    p (firstMatches names property first budget) ↔
      ∃ level, IsLeast (matchingLevels names property first budget) level ∧
        p (matchingNames names property level) := by
  constructor
  · intro h
    have hnonempty : (firstMatches names property first budget).Nonempty := by
      refine Set.nonempty_iff_ne_empty.mpr fun heq => ?_
      exact hempty (heq ▸ h)
    obtain ⟨name, level, hlevel, -⟩ := hnonempty
    exact ⟨level, hlevel, firstMatches_eq_of_isLeast hlevel ▸ h⟩
  · rintro ⟨level, hlevel, h⟩
    exact (firstMatches_eq_of_isLeast hlevel).symm ▸ h

/-- There are no first matches exactly if nothing matches at any of the levels. -/
theorem firstMatches_eq_empty_iff {first budget : Nat} :
    firstMatches names property first budget = ∅ ↔
      ∀ level, first ≤ level → level ≤ first + budget →
        matchingNames names property level = ∅ := by
  constructor
  · intro h level hfirst hlast
    by_contra hne
    -- Some level has a match, so there is a first one.
    have hlevels : (matchingLevels names property first budget).Nonempty :=
      ⟨level, hfirst, hlast, Set.nonempty_iff_ne_empty.mpr hne⟩
    classical
    have hleast := hlevels.isLeast_natFind
    obtain ⟨name, hname⟩ := hleast.1.2.2
    rw [← firstMatches_eq_of_isLeast hleast, h] at hname
    exact hname
  · intro h
    refine Set.eq_empty_iff_forall_notMem.mpr ?_
    rintro name ⟨level, ⟨⟨hfirst, hlast, -⟩, -⟩, hname⟩
    rw [h level hfirst hlast] at hname
    exact hname

/-- Where anything matches at a level, that level is the first one from itself on. -/
theorem firstMatches_of_nonempty {first budget : Nat}
    (h : (matchingNames names property first).Nonempty) :
    firstMatches names property first budget = matchingNames names property first :=
  firstMatches_eq_of_isLeast
    ⟨⟨Nat.le_refl _, Nat.le_add_right _ _, h⟩, fun _ hlevel => hlevel.1⟩

/-- Where nothing matches at a level, the first matches are those from the next level on. -/
theorem firstMatches_succ {first budget : Nat} (h : matchingNames names property first = ∅) :
    firstMatches names property first (budget + 1) =
      firstMatches names property (first + 1) budget := by
  -- The level that is left out of the count holds no match.
  have hlevels : matchingLevels names property first (budget + 1) =
      matchingLevels names property (first + 1) budget := by
    ext level
    constructor
    · rintro ⟨hfirst, hlast, hmatch⟩
      have hne : first ≠ level := by
        rintro rfl
        exact Set.not_nonempty_empty (h ▸ hmatch)
      exact ⟨by omega, by omega, hmatch⟩
    · rintro ⟨hfirst, hlast, hmatch⟩
      exact ⟨by omega, by omega, hmatch⟩
  rw [firstMatches, firstMatches, hlevels]

end

/-! ## What a search reports -/

namespace Resolution

/-- A resolution reports a set of names: that there are none, the only one, or all of them, each
once and in ascending order. -/
def Reports (found : Set String) : Resolution → Prop
  | .unresolved => found = ∅
  | .resolved name => found = {name}
  | .ambiguous names =>
    found.Nontrivial ∧ names.Pairwise (· < ·) ∧ ∀ name, name ∈ names ↔ name ∈ found

/-- A set of names has one report. -/
theorem Reports.unique {found : Set String} {resolution resolution' : Resolution}
    (h : resolution.Reports found) (h' : resolution'.Reports found) :
    resolution = resolution' := by
  have hsingle : ∀ {name}, found = {name} → ¬ found.Nontrivial :=
    fun heq hmany => Set.not_nontrivial_singleton (heq ▸ hmany)
  -- No name, one name and several exclude each other, so only reports of one kind are left.
  cases resolution with
  | unresolved =>
    have hempty : found = ∅ := h
    cases resolution' with
    | unresolved => rfl
    | resolved name => exact absurd (hempty.symm.trans h') (Set.singleton_ne_empty name).symm
    | ambiguous names => exact absurd hempty h'.1.nonempty.ne_empty
  | resolved name =>
    have hname : found = {name} := h
    cases resolution' with
    | unresolved => exact absurd (hname.symm.trans h') (Set.singleton_ne_empty name)
    | resolved name' => rw [Set.singleton_injective (hname.symm.trans h')]
    | ambiguous names => exact absurd h'.1 (hsingle hname)
  | ambiguous names =>
    obtain ⟨hmany, hsorted, hnames⟩ := h
    cases resolution' with
    | unresolved => exact absurd h' hmany.nonempty.ne_empty
    | resolved name => exact absurd hmany (hsingle h')
    | ambiguous names' =>
      obtain ⟨-, hsorted', hnames'⟩ := h'
      -- Both lists ascend and have the same members.
      have heq : names = names' :=
        eq_of_pairwise_of_mem_iff (fun _ _ => String.lt_asymm) hsorted hsorted'
          fun name => (hnames name).trans (hnames' name).symm
      rw [heq]

/-- The names that a resolution reports. -/
def names : Resolution → List String
  | .unresolved => []
  | .resolved name => [name]
  | .ambiguous names => names

/-- The names that a resolution reports are those of the set. -/
theorem Reports.mem_names_iff {found : Set String} {resolution : Resolution}
    (h : resolution.Reports found) {name : String} : name ∈ resolution.names ↔ name ∈ found := by
  cases resolution with
  | unresolved =>
    obtain rfl : found = ∅ := h
    exact iff_of_false List.not_mem_nil (Set.notMem_empty name)
  | resolved only =>
    obtain rfl : found = {only} := h
    exact List.mem_singleton.trans Set.mem_singleton_iff.symm
  | ambiguous names => exact h.2.2 name

variable {names : List String} {property : String}

/-- The search reports the names that match at the first level with a match. -/
theorem reports_searchFrom (dropped budget : Nat) :
    (searchFrom (names.map fun name => (name, Name.ofString name)) (propertyForms property)
      dropped budget).Reports (firstMatches names property dropped budget) := by
  have hmem : ∀ {dropped name}, name ∈ sortedNames (matchesAt
      (names.map fun name => (name, Name.ofString name)) (propertyForms property) dropped) ↔
        name ∈ matchingNames names property dropped :=
    mem_sortedNames.trans mem_matchesAt_map_iff
  -- A level with a match ends the search; without one the first match is further behind.
  have hnone : ∀ {dropped}, sortedNames (matchesAt
      (names.map fun name => (name, Name.ofString name)) (propertyForms property) dropped) = [] →
        matchingNames names property dropped = ∅ := by
    intro dropped heq
    refine Set.eq_empty_iff_forall_notMem.mpr fun name hname => ?_
    rw [← hmem, heq] at hname
    cases hname
  fun_induction searchFrom (names.map fun name => (name, Name.ofString name))
      (propertyForms property) dropped budget with
  | case1 budget dropped name hfound =>
    have hlevel : matchingNames names property dropped = {name} := by
      ext other
      rw [← hmem, hfound, List.mem_singleton, Set.mem_singleton_iff]
    rw [firstMatches_of_nonempty (hlevel ▸ Set.singleton_nonempty name), hlevel]
    rfl
  | case2 budget dropped first second rest hfound =>
    have hsorted : (first :: second :: rest).Pairwise (· < ·) := hfound ▸ pairwise_sortedNames _
    have hnames : ∀ name, name ∈ first :: second :: rest ↔
        name ∈ matchingNames names property dropped := fun name => hfound ▸ hmem
    have hfirst := (hnames first).mp List.mem_cons_self
    have hsecond := (hnames second).mp (List.mem_cons_of_mem _ List.mem_cons_self)
    have hlt : first < second := (List.pairwise_cons.mp hsorted).1 second List.mem_cons_self
    have hne : first ≠ second := fun heq => String.lt_irrefl second (heq ▸ hlt)
    rw [firstMatches_of_nonempty ⟨first, hfirst⟩]
    exact ⟨⟨first, hfirst, second, hsecond, hne⟩, hsorted, hnames⟩
  | case3 dropped hfound =>
    refine firstMatches_eq_empty_iff.mpr fun level hfirst hlast => ?_
    obtain rfl : dropped = level := by omega
    exact hnone hfound
  | case4 dropped hfound budget hleft ih =>
    rw [firstMatches_succ (hnone hfound)]
    exact ih
  | case5 dropped hfound budget hleft =>
    -- No name has words left, here or at any later level.
    rw [Bool.not_eq_true, anyLeft_map_eq_false_iff] at hleft
    exact firstMatches_eq_empty_iff.mpr fun level hfirst _ => matchingNames_eq_empty hleft hfirst

end Resolution

section

variable {names : List String} {maxDrops : Nat} {property : String}

/-- A property has one outcome among some names, which reports the names that match at the first
level with a match. -/
theorem resolve_eq_iff {resolution : Resolution} :
    resolve names maxDrops property = resolution ↔
      resolution.Reports (firstMatches names property 0 maxDrops) := by
  have hsearch : (resolve names maxDrops property).Reports
      (firstMatches names property 0 maxDrops) := Resolution.reports_searchFrom 0 maxDrops
  exact ⟨fun h => h ▸ hsearch, fun h => hsearch.unique h⟩

/-- What a property refers to among some names is a matter of the set of names. -/
theorem resolve_congr {names' : List String} (h : ∀ name, name ∈ names ↔ name ∈ names')
    (maxDrops : Nat) (property : String) :
    resolve names maxDrops property = resolve names' maxDrops property := by
  rw [resolve_eq_iff, firstMatches, matchingLevels]
  simp only [matchingNames_congr h]
  exact resolve_eq_iff.mp rfl

/-- A name that is listed once more makes no difference. -/
theorem resolve_append_of_mem {name : String} (h : name ∈ names) :
    resolve (names ++ [name]) maxDrops property = resolve names maxDrops property := by
  refine resolve_congr (fun other => ?_) maxDrops property
  rw [List.mem_append, List.mem_singleton]
  exact or_iff_left_of_imp fun heq => heq ▸ h

/-- The names that resolution reports are the first matches. -/
theorem mem_names_resolve_iff {name : String} :
    name ∈ (resolve names maxDrops property).names ↔
      name ∈ firstMatches names property 0 maxDrops :=
  (resolve_eq_iff.mp rfl).mem_names_iff

/-- A name that matches in full is reported, with the others that do. -/
theorem mem_names_resolve_of_mem {name : String} (h : name ∈ matchingNames names property 0) :
    name ∈ (resolve names maxDrops property).names := by
  rwa [mem_names_resolve_iff, firstMatches_of_nonempty ⟨name, h⟩]

/-- What resolution finds matches at a level by its words, and no other name matches there. -/
theorem exists_match_of_resolve {name : String}
    (h : resolve names maxDrops property = .resolved name) :
    ∃ isMatch : Name → Prop, ∀ other,
      (other ∈ names ∧ isMatch (Name.ofString other)) ↔ other = name := by
  have hfound : firstMatches names property 0 maxDrops = {name} := resolve_eq_iff.mp h
  obtain ⟨level, -, hlevel⟩ := (firstMatches_iff_exists_isLeast (p := fun found => found = {name})
    (Set.singleton_ne_empty name).symm).mp hfound
  exact ⟨fun parsed => parsed.Matches property level, fun other => Set.ext_iff.mp hlevel other⟩

/-- A name that resolution finds is one of the names it searches. -/
theorem mem_of_resolve_eq_resolved {name : String}
    (h : resolve names maxDrops property = .resolved name) : name ∈ names := by
  obtain ⟨isMatch, hmatch⟩ := exists_match_of_resolve h
  exact ((hmatch name).mpr rfl).1

end

/-- What a property means among some names is decided by the first level, of those within the limit,
at which any name matches. If there is none the property means nothing; if one name matches there it
means that name, and otherwise it could mean each of the names there, which are listed once and in
ascending order. It makes no difference in which order the names come and how often, and leaving out
more words than any name has brings no further match. -/
theorem resolve_by_first_level (names : List String) (maxDrops : Nat) (property : String) :
    (resolve names maxDrops property = .unresolved ↔
      ∀ dropped ≤ maxDrops, matchingNames names property dropped = ∅) ∧
    (∀ name, resolve names maxDrops property = .resolved name ↔
      ∃ dropped,
        IsLeast {level | level ≤ maxDrops ∧ (matchingNames names property level).Nonempty}
          dropped ∧
        matchingNames names property dropped = {name}) ∧
    (∀ found, resolve names maxDrops property = .ambiguous found ↔
      ∃ dropped,
        IsLeast {level | level ≤ maxDrops ∧ (matchingNames names property level).Nonempty}
          dropped ∧
        (matchingNames names property dropped).Nontrivial ∧ found.Pairwise (· < ·) ∧
        ∀ name, name ∈ found ↔ name ∈ matchingNames names property dropped) ∧
    (∀ names', (∀ name, name ∈ names' ↔ name ∈ names) →
      resolve names' maxDrops property = resolve names maxDrops property) ∧
    ∀ dropped, (∀ name ∈ names, (Name.ofString name).parts.length ≤ dropped) →
      ∀ level ≥ dropped, matchingNames names property level = ∅ := by
  have hlevels : {level | level ≤ maxDrops ∧ (matchingNames names property level).Nonempty} =
      matchingLevels names property 0 maxDrops := by
    ext level
    simp [matchingLevels]
  rw [hlevels]
  refine ⟨?_, fun name => ?_, fun found => ?_, fun names' h => resolve_congr h maxDrops property,
    fun dropped h level hle => matchingNames_eq_empty h hle⟩
  · rw [resolve_eq_iff, Resolution.Reports, firstMatches_eq_empty_iff, Nat.zero_add]
    exact ⟨fun h dropped hle => h dropped (Nat.zero_le _) hle, fun h dropped _ hle => h dropped hle⟩
  · rw [resolve_eq_iff]
    exact firstMatches_iff_exists_isLeast (p := fun matched => matched = {name})
      (Set.singleton_ne_empty name).symm
  · -- No single name is the empty set, so a report of one comes from a level where names match.
    rw [resolve_eq_iff]
    exact firstMatches_iff_exists_isLeast
      (p := fun matched => matched.Nontrivial ∧ found.Pairwise (· < ·) ∧
        ∀ name, name ∈ found ↔ name ∈ matched)
      fun h => Set.not_nontrivial_empty h.1

/-- An address could be that of the work or of the home, however often each is listed. The first
level is the one without the first words, since no name matches in full. -/
theorem resolve_by_first_level_address :
    resolve ["WorkAddress", "HomeAddress", "WorkAddress"] 20 "address" =
        .ambiguous ["HomeAddress", "WorkAddress"] ∧
      resolve ["HomeAddress", "WorkAddress"] 20 "address" =
        resolve ["WorkAddress", "HomeAddress", "WorkAddress"] 20 "address" ∧
      ∃ dropped, (matchingNames ["WorkAddress", "HomeAddress", "WorkAddress"] "address"
        dropped).Nontrivial := by
  have hambiguous : resolve ["WorkAddress", "HomeAddress", "WorkAddress"] 20 "address" =
      .ambiguous ["HomeAddress", "WorkAddress"] := by decide +kernel
  obtain ⟨-, -, hmany, hset, -⟩ :=
    resolve_by_first_level ["WorkAddress", "HomeAddress", "WorkAddress"] 20 "address"
  obtain ⟨dropped, -, hnontrivial, -⟩ := (hmany _).mp hambiguous
  refine ⟨hambiguous, hset _ fun name => ?_, dropped, hnontrivial⟩
  simp only [List.mem_cons, List.not_mem_nil, or_false]
  tauto

end DomainTables
