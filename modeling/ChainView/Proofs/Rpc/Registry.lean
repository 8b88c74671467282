import Mathlib.Data.List.Induction
import Mathlib.Data.List.Nodup
import ChainView.Proofs.Text.Order
import ChainView.Rpc.Method

/-!
# The table of methods

A registry is a table from names to methods.  Registering a method puts it there if its name is free
and changes nothing otherwise, so what is there is the first method of each name
(`Registry.entries_insertAll`), and it is found under its name.

The table has no order of its own.  A listing of its methods in the order of their names is the
catalogue whatever order they were taken from the table in, because names that are all different
leave only one such listing (`Registry.eq_sorted_of_perm`).  For the same reason methods of
different names make the same table whatever order they are registered in.
-/

namespace ChainView.Rpc

variable {γ : Type}

/-- A method comes before another if the bytes of its name do. -/
def Method.Precedes (a b : Method γ) : Prop :=
  Text.bytesOf a.name < Text.bytesOf b.name

/-- Methods are in the order of their bytes as in that of their names. -/
lemma Method.precedes_iff {a b : Method γ} : a.Precedes b ↔ a.name < b.name :=
  Text.bytesOf_lt_iff

namespace Registry

/-- The methods of a sequence that are taken in, when each is registered in turn. -/
def taken (r : Registry γ) : List (Method γ) → List (Method γ)
  | [] => []
  | m :: rest =>
    match r.insert? m with
    | some next => m :: next.taken rest
    | none => r.taken rest

variable (r : Registry γ) (ms : List (Method γ))

/-! ## Registrations -/

/-- A name is taken if a method bears it. -/
lemma contains_iff {name : String} : r.contains name = true ↔ ∃ m ∈ r.entries, m.name = name := by
  simp [contains, find?, List.find?_isSome]

/-- A method is put behind the others, unless its name is taken. -/
lemma insert?_eq (m : Method γ) :
    r.insert? m =
      if ∃ earlier ∈ r.entries, earlier.name = m.name then none else some ⟨r.entries ++ [m]⟩ := by
  rw [insert?]
  exact if_congr r.contains_iff rfl rfl

/-- A method is refused exactly if its name is taken. -/
lemma insert?_eq_none_iff {m : Method γ} :
    r.insert? m = none ↔ ∃ earlier ∈ r.entries, earlier.name = m.name := by
  rw [insert?_eq]
  split_ifs with htaken <;> simp [htaken]

/-- Registering one method more. -/
lemma insertAll_append_singleton (m : Method γ) :
    r.insertAll (ms ++ [m]) = ((r.insertAll ms).insert? m).getD (r.insertAll ms) := by
  rw [insertAll, List.foldl_append]
  rfl

/-- One method more is put behind the others, unless its name is taken. -/
lemma entries_insertAll_append_singleton (m : Method γ) :
    (r.insertAll (ms ++ [m])).entries =
      if ∃ earlier ∈ (r.insertAll ms).entries, earlier.name = m.name then (r.insertAll ms).entries
      else (r.insertAll ms).entries ++ [m] := by
  rw [insertAll_append_singleton, insert?_eq]
  split_ifs <;> rfl

/-- The table holds what it held and the methods that were taken in. -/
lemma entries_insertAll : (r.insertAll ms).entries = r.entries ++ r.taken ms := by
  induction ms generalizing r with
  | nil => exact (List.append_nil _).symm
  | cons m rest ih =>
    change (((r.insert? m).getD r).insertAll rest).entries = _
    rw [ih, taken, insert?_eq]
    split_ifs
    · rfl
    · exact List.append_assoc _ _ _

/-- The names in a table that was empty differ. -/
lemma nodup_names_insertAll : ((empty.insertAll ms).entries.map Method.name).Nodup := by
  induction ms using List.reverseRecOn with
  | nil => exact List.nodup_nil
  | append_singleton ms m ih =>
    rw [entries_insertAll_append_singleton]
    split_ifs with htaken
    · exact ih
    · rw [List.map_append, List.nodup_append_comm, List.map_singleton, List.singleton_append,
        List.nodup_cons, List.mem_map]
      exact ⟨htaken, ih⟩

/-- Methods of different names are all taken in. -/
lemma entries_insertAll_of_nodup (hnodup : (ms.map Method.name).Nodup) :
    (empty.insertAll ms).entries = ms := by
  induction ms using List.reverseRecOn with
  | nil => rfl
  | append_singleton ms m ih =>
    rw [List.map_append, List.nodup_append_comm, List.map_singleton, List.singleton_append,
      List.nodup_cons, List.mem_map] at hnodup
    obtain ⟨hfree, hnodup⟩ := hnodup
    rw [entries_insertAll_append_singleton, ih hnodup, if_neg hfree]

/-- The first method that is registered under a name is found under it. -/
lemma find?_insertAll (name : String) :
    (empty.insertAll ms).find? name = ms.find? fun m => m.name = name := by
  induction ms using List.reverseRecOn with
  | nil => rfl
  | append_singleton ms m ih =>
    rw [List.find?_append, ← ih, find?, entries_insertAll_append_singleton]
    split_ifs with htaken
    · by_cases hname : m.name = name
      · -- another method is found first
        subst hname
        obtain ⟨earlier, hearlier⟩ := Option.isSome_iff_exists.mp ((contains_iff _).mpr htaken)
        rw [hearlier, Option.some_or]
        exact hearlier
      · rw [List.find?_singleton, if_neg (by simpa using hname), Option.or_none]
        rfl
    · exact List.find?_append

/-- The names in a table that was empty are those of the methods that were registered. -/
lemma exists_mem_entries_iff {name : String} :
    (∃ m ∈ (empty.insertAll ms).entries, m.name = name) ↔ ∃ m ∈ ms, m.name = name := by
  rw [← contains_iff, contains, find?_insertAll, List.find?_isSome]
  simp only [decide_eq_true_eq]

/-! ## Listings -/

/-- In a table of different names a method is found under a name exactly if it is there and bears
it. -/
lemma find?_eq_some_iff {r : Registry γ} (hnodup : (r.entries.map Method.name).Nodup)
    {name : String} {m : Method γ} : r.find? name = some m ↔ m ∈ r.entries ∧ m.name = name := by
  constructor
  · intro h
    exact ⟨List.mem_of_find?_eq_some h, by simpa using List.find?_some h⟩
  · rintro ⟨hmem, hname⟩
    obtain ⟨found, hfound⟩ := Option.isSome_iff_exists.mp
      ((contains_iff r).mpr ⟨m, hmem, hname⟩)
    have hsame : found.name = m.name := by
      rw [hname]
      simpa using List.find?_some hfound
    rwa [← List.inj_on_of_nodup_map hnodup (List.mem_of_find?_eq_some hfound) hmem hsame]

/-- Tables of the same methods find the same, if their names differ. -/
lemma find?_of_perm {r other : Registry γ} (hnodup : (r.entries.map Method.name).Nodup)
    (hperm : other.entries.Perm r.entries) (name : String) : other.find? name = r.find? name := by
  have hnodup' : (other.entries.map Method.name).Nodup := (hperm.map _).nodup_iff.mpr hnodup
  refine Option.ext fun m => ?_
  rw [find?_eq_some_iff hnodup, find?_eq_some_iff hnodup', hperm.mem_iff]

/-- A listing of methods of different names in which none precedes the one before it is in the order
of the names. -/
lemma pairwise_precedes {listed : List (Method γ)} (hnodup : (listed.map Method.name).Nodup)
    (hsorted : listed.Pairwise fun a b => ¬ b.Precedes a) : listed.Pairwise Method.Precedes := by
  refine (hsorted.and (List.pairwise_map.mp hnodup)).imp ?_
  rintro a b ⟨hle, hne⟩
  rw [Method.precedes_iff, not_lt] at *
  exact lt_of_le_of_ne hle hne

/-- The catalogue lists the methods in the order of their names. -/
lemma pairwise_sorted : r.sorted.Pairwise fun a b => ¬ b.Precedes a := by
  have hle : r.sorted.Pairwise fun a b => decide (a.name ≤ b.name) = true := by
    refine List.pairwise_mergeSort (fun a b c hab hbc => ?_) (fun a b => ?_) _
    · rw [decide_eq_true_eq] at *
      exact hab.trans hbc
    · simpa using le_total a.name b.name
  refine hle.imp fun h => ?_
  rw [Method.precedes_iff, not_lt]
  exact of_decide_eq_true h

/-- The catalogue lists every method once. -/
lemma sorted_perm : r.sorted.Perm r.entries :=
  List.mergeSort_perm _ _

/-- If the names differ there is one listing of the methods in the order of their names, and it is
the catalogue. -/
lemma eq_sorted_of_perm {r : Registry γ} (hnodup : (r.entries.map Method.name).Nodup)
    {listed : List (Method γ)} (hperm : listed.Perm r.entries)
    (hsorted : listed.Pairwise fun a b => ¬ b.Precedes a) : listed = r.sorted := by
  have hnames {ms : List (Method γ)} (hms : ms.Perm r.entries) : (ms.map Method.name).Nodup :=
    (hms.map _).nodup_iff.mpr hnodup
  refine List.Perm.eq_of_pairwise (fun a b _ _ hab hba => ?_)
    (pairwise_precedes (hnames hperm) hsorted)
    (pairwise_precedes (hnames r.sorted_perm) r.pairwise_sorted) (hperm.trans r.sorted_perm.symm)
  exact absurd hba (List.lt_asymm hab)

/-- The registry is a table of methods by name, in which no order is left but that of the names.

Let methods be registered one after the other, to begin with none.  One more is refused exactly if
its name was used before, and then the table stays as it is; otherwise it is the next in the table.
Under every name the first method that was registered under it is found, and nothing if there was
none.  The catalogue lists every method that was taken in once, each name before the next by its
bytes, and is as long as the size of the table says.  If the names differ, the methods may be
registered in any other order: what is found is the same, and so is the catalogue.  And if the table
keeps its methods in any order, what is found in it is the same, and bringing them into the order of
their names, by whatever way of sorting, gives the catalogue. -/
theorem registry_is_table_by_name (ms : List (Method γ)) :
    let r : Registry γ := empty.insertAll ms
    (∀ m, let next := empty.insertAll (ms ++ [m])
      (r.insert? m = none ↔ ∃ earlier ∈ ms, earlier.name = m.name) ∧
        (r.insert? m = none → next = r) ∧
        (r.insert? m ≠ none → r.insert? m = some next ∧ next.entries = r.entries ++ [m])) ∧
      (∀ name, r.find? name = ms.find? fun m => m.name = name) ∧
      (r.sorted.Perm (empty.taken ms) ∧ r.sorted.Pairwise Method.Precedes ∧
        r.size = r.sorted.length) ∧
      (∀ others, (ms.map Method.name).Nodup → others.Perm ms →
        (∀ name, (empty.insertAll others).find? name = r.find? name) ∧
          (empty.insertAll others).sorted = r.sorted) ∧
      ∀ stored : Registry γ, stored.entries.Perm r.entries →
        (∀ name, stored.find? name = r.find? name) ∧
          ∀ listed, listed.Perm stored.entries →
            (listed.Pairwise fun a b => ¬ b.Precedes a) → listed = r.sorted := by
  intro r
  have hnodup : (r.entries.map Method.name).Nodup := nodup_names_insertAll ms
  have hnext (m : Method γ) : empty.insertAll (ms ++ [m]) = (r.insert? m).getD r :=
    insertAll_append_singleton empty ms m
  refine ⟨fun m => ⟨?_, fun hrefused => ?_, fun htaken => ⟨?_, ?_⟩⟩, find?_insertAll ms,
    ⟨?_, ?_, ?_⟩, fun others hdistinct hperm => ?_, fun stored hstored =>
      ⟨find?_of_perm hnodup hstored, fun listed hlisted => eq_sorted_of_perm hnodup
        (hlisted.trans hstored)⟩⟩
  · exact r.insert?_eq_none_iff.trans (exists_mem_entries_iff ms)
  · rw [hnext, hrefused, Option.getD_none]
  · obtain ⟨next, hsome⟩ := Option.ne_none_iff_exists'.mp htaken
    rw [hnext, hsome, Option.getD_some]
  · rw [entries_insertAll_append_singleton, if_neg (mt r.insert?_eq_none_iff.mpr htaken)]
  · have hentries : r.entries = empty.taken ms := entries_insertAll empty ms
    rw [← hentries]
    exact r.sorted_perm
  · exact pairwise_precedes ((r.sorted_perm.map _).nodup_iff.mpr hnodup) r.pairwise_sorted
  · exact r.sorted_perm.length_eq.symm
  · have hother : (others.map Method.name).Nodup := (hperm.map _).nodup_iff.mpr hdistinct
    have hsame : (empty.insertAll others).entries.Perm r.entries := by
      rw [entries_insertAll_of_nodup others hother, entries_insertAll_of_nodup ms hdistinct]
      exact hperm
    refine ⟨find?_of_perm hnodup hsame, ?_⟩
    exact eq_sorted_of_perm hnodup ((sorted_perm _).trans hsame) (pairwise_sorted _)

/-- Two methods that are registered in either order are listed in the same order. -/
theorem registry_is_table_by_name_of_two_methods :
    let counted : Method Unit := ⟨"count", [.word], "counts", fun _ ps => .value (.array ps)⟩
    let closed : Method Unit := ⟨"close", [], "closes", fun _ _ => .crashed .other⟩
    (empty.insertAll [counted, closed]).sorted = (empty.insertAll [closed, counted]).sorted ∧
      (empty.insertAll [closed, counted]).size = 2 := by
  intro counted closed
  obtain ⟨-, -, ⟨-, -, hsize⟩, horder, -⟩ := registry_is_table_by_name [closed, counted]
  refine ⟨(horder [counted, closed] (by decide) (.swap ..)).2, ?_⟩
  rw [hsize, (sorted_perm _).length_eq]
  rfl

end Registry

end ChainView.Rpc
