import Mathlib.Data.Finset.Card
import Mathlib.Data.List.Induction
import QueryKernel.Proofs.Session.Materialization

/-!
Contract: the table of decoded literals after any insertions.

A second insertion at an offset is reported, and is made nevertheless: from then on the literal is
read from the globals that were refused.

Owns:
- what one insertion reports and what it leaves in the table;
- the table after a history of insertions: the last one at an offset decides;
- the law of the first insertion, and the main statement: a history obeys it exactly when no offset
  is inserted with different globals.

Does not own: that generated code inserts every offset once.
-/

namespace QueryKernel

namespace Session

namespace MaterializedTable

/-! ### One insertion -/

def offsets (table : MaterializedTable) : List Nat := table.entries.map Prod.fst

theorem size_eq_length (table : MaterializedTable) : table.size = table.offsets.length :=
  (List.length_map _).symm

theorem get?_eq_none_iff {table : MaterializedTable} {offset : Nat} :
    table.get? offset = none ↔ offset ∉ table.offsets := by
  rw [get?, List.lookup_eq_none_iff, offsets, List.mem_map]
  constructor
  · rintro differs ⟨entry, member, rfl⟩
    exact absurd (differs entry member) (by simp)
  · intro absent entry member
    exact bne_iff_ne.mpr fun same => absent ⟨entry, member, same.symm⟩

theorem mem_offsets {table : MaterializedTable} {offset : Nat} {globals : Materialized}
    (known : table.get? offset = some globals) : offset ∈ table.offsets := by
  by_contra absent
  rw [get?_eq_none_iff.mpr absent] at known
  contradiction

/-- The entries in which an offset has new globals. -/
def replaced (entries : List (Nat × Materialized)) (offset : Nat) (globals : Materialized) :
    List (Nat × Materialized) :=
  entries.map fun entry => if entry.1 = offset then (offset, globals) else entry

section Replaced

variable {entries : List (Nat × Materialized)} {offset : Nat} (globals : Materialized)

theorem replaced_offsets :
    (replaced entries offset globals).map Prod.fst = entries.map Prod.fst := by
  rw [replaced, List.map_map]
  refine List.map_congr_left fun entry _ => ?_
  rw [Function.comp_apply]
  split
  · rename_i here
    exact here.symm
  · rfl

theorem lookup_replaced_of_ne {sought : Nat} (different : sought ≠ offset) :
    (replaced entries offset globals).lookup sought = entries.lookup sought := by
  induction entries with
  | nil => rfl
  | cons entry rest inductionHypothesis =>
      rw [replaced, List.map_cons, List.lookup_cons, List.lookup_cons, ← replaced,
        inductionHypothesis]
      split_ifs with here
      · have elsewhere : (sought == offset) = false := beq_false_of_ne different
        rw [here, elsewhere]
      · rfl

theorem lookup_replaced_self (known : offset ∈ entries.map Prod.fst) :
    (replaced entries offset globals).lookup offset = some globals := by
  induction entries with
  | nil => contradiction
  | cons entry rest inductionHypothesis =>
      rw [replaced, List.map_cons, List.lookup_cons, ← replaced]
      split_ifs with here
      · rw [beq_self_eq_true]
      · have behind : offset ∈ rest.map Prod.fst :=
          (List.mem_cons.mp known).resolve_left (Ne.symm here)
        have elsewhere : (offset == entry.1) = false := beq_false_of_ne (Ne.symm here)
        rw [elsewhere, inductionHypothesis behind]

end Replaced

section Insertion

variable (table : MaterializedTable) (offset : Nat) (globals : Materialized)

/-- An insertion is reported where the offset is in the table. -/
theorem insert_fst : (table.insert offset globals).1 =
    if offset ∈ table.offsets then .error (.breach (.materializedTwice offset)) else .ok () := by
  unfold insert
  split
  · rename_i unknown
    rw [if_neg (get?_eq_none_iff.mp unknown)]
  · rename_i held known
    rw [if_pos (mem_offsets known)]

theorem insert_offsets : (table.insert offset globals).2.offsets =
    if offset ∈ table.offsets then table.offsets else table.offsets ++ [offset] := by
  unfold insert
  split
  · rename_i unknown
    rw [if_neg (get?_eq_none_iff.mp unknown)]
    simp [offsets]
  · rename_i held known
    rw [if_pos (mem_offsets known)]
    exact replaced_offsets globals

/-- Reported or not, an insertion is made, and changes no other offset. -/
theorem get?_insert (sought : Nat) : (table.insert offset globals).2.get? sought =
    if sought = offset then some globals else table.get? sought := by
  unfold insert
  split
  · rename_i unknown
    exact get?_extended unknown globals sought
  · rename_i held known
    split_ifs with here
    · subst here
      exact lookup_replaced_self globals (mem_offsets known)
    · exact lookup_replaced_of_ne globals here

end Insertion

/-! ### Histories of insertions -/

/-- The table after insertions, whatever they report. -/
def inserted (table : MaterializedTable) (history : List (Nat × Materialized)) :
    MaterializedTable :=
  history.foldl (fun table insertion => (table.insert insertion.1 insertion.2).2) table

theorem inserted_concat (table : MaterializedTable) (history : List (Nat × Materialized))
    (last : Nat × Materialized) :
    table.inserted (history ++ [last]) = ((table.inserted history).insert last.1 last.2).2 :=
  List.foldl_concat ..

/-- The last insertion at an offset decides. -/
theorem get?_inserted (history : List (Nat × Materialized)) (offset : Nat) :
    (inserted {} history).get? offset = history.reverse.lookup offset := by
  induction history using List.reverseRecOn with
  | nil => rfl
  | append_singleton history last inductionHypothesis =>
      rw [inserted_concat, get?_insert, List.reverse_concat, List.lookup_cons, inductionHypothesis]
      split_ifs with here
      · rw [here, beq_self_eq_true]
      · have elsewhere : (offset == last.1) = false := beq_false_of_ne here
        rw [elsewhere]

/-- The table holds the offsets of the insertions, each of them once. -/
theorem inserted_offsets (history : List (Nat × Materialized)) :
    (inserted {} history).offsets.Nodup ∧
      ∀ offset, offset ∈ (inserted {} history).offsets ↔ offset ∈ history.map Prod.fst := by
  induction history using List.reverseRecOn with
  | nil => exact ⟨List.nodup_nil, fun _ => Iff.rfl⟩
  | append_singleton history last inductionHypothesis =>
      rcases inductionHypothesis with ⟨distinct, same⟩
      rw [inserted_concat, insert_offsets, List.map_append, List.map_singleton]
      split_ifs with known
      · refine ⟨distinct, fun offset => ?_⟩
        have present := (same last.1).mp known
        rw [same, List.mem_append, List.mem_singleton]
        exact ⟨.inl, fun member => member.elim id fun last => last ▸ present⟩
      · refine ⟨List.concat_eq_append ▸ distinct.concat known, fun offset => ?_⟩
        rw [List.mem_append, List.mem_append, same]

theorem inserted_size (history : List (Nat × Materialized)) :
    (inserted {} history).size = (history.map Prod.fst).toFinset.card := by
  rcases inserted_offsets history with ⟨distinct, same⟩
  rw [size_eq_length, ← List.toFinset_card_of_nodup distinct]
  congr 1
  ext offset
  rw [List.mem_toFinset, List.mem_toFinset, same]

/-- An insertion behind a history is reported where its offset was inserted before. -/
theorem inserted_insert (history : List (Nat × Materialized)) (offset : Nat)
    (globals : Materialized) : ((inserted {} history).insert offset globals).1 =
      if offset ∈ history.map Prod.fst then .error (.breach (.materializedTwice offset))
      else .ok () := by
  rw [insert_fst]
  exact if_congr ((inserted_offsets history).2 offset) rfl rfl

/-! ### The first insertion -/

/-- No offset has different globals. -/
def Consistent (entries : List (Nat × Materialized)) : Prop :=
  ∀ offset globals other, (offset, globals) ∈ entries → (offset, other) ∈ entries → globals = other

theorem consistent_of_nodup {entries : List (Nat × Materialized)}
    (distinct : (entries.map Prod.fst).Nodup) : Consistent entries := by
  intro offset globals other member again
  have same := List.inj_on_of_nodup_map distinct member again rfl
  exact congrArg Prod.snd same

theorem Consistent.lookup {entries : List (Nat × Materialized)} (consistent : Consistent entries)
    {offset : Nat} {globals : Materialized} :
    entries.lookup offset = some globals ↔ (offset, globals) ∈ entries := by
  have member : ∀ {held}, entries.lookup offset = some held → (offset, held) ∈ entries := by
    intro held found
    rcases List.lookup_eq_some_iff.mp found with ⟨front, back, rfl, -⟩
    exact List.mem_append_right _ List.mem_cons_self
  refine ⟨member, fun present => ?_⟩
  cases found : entries.lookup offset with
  | none =>
      have differs := List.lookup_eq_none_iff.mp found _ present
      simp at differs
  | some held => rw [consistent offset held globals (member found) present]

/-- In a consistent list it does not matter from which end an offset is looked up. -/
theorem Consistent.lookup_reverse {entries : List (Nat × Materialized)}
    (consistent : Consistent entries) (offset : Nat) :
    entries.reverse.lookup offset = entries.lookup offset := by
  have backwards : Consistent entries.reverse := by
    intro place globals other member again
    exact consistent place globals other (List.mem_reverse.mp member) (List.mem_reverse.mp again)
  ext globals
  rw [backwards.lookup, consistent.lookup, List.mem_reverse]

/-- An insertion leaves a table as it was exactly when it inserts what the table holds. -/
theorem insert_eq_self_iff {table : MaterializedTable} (distinct : table.offsets.Nodup)
    {offset : Nat} {globals : Materialized} :
    (table.insert offset globals).2 = table ↔ table.get? offset = some globals := by
  constructor
  · intro same
    have found := get?_insert table offset globals offset
    rw [same, if_pos rfl] at found
    exact found
  · intro known
    have kept : replaced table.entries offset globals = table.entries := by
      refine (List.map_congr_left fun entry member => ?_).trans (List.map_id _)
      split_ifs with here
      · have held : table.get? offset = some entry.2 :=
          (consistent_of_nodup distinct).lookup.mpr (here ▸ member)
        rw [known] at held
        exact Prod.ext here.symm (Option.some.inj held)
      · rfl
    unfold insert
    rw [known]
    exact congrArg MaterializedTable.mk kept

/-- The law of the first insertion. At every point of the history an offset has the globals that
were inserted first, and an insertion at an offset of the table is reported and changes nothing. -/
structure FirstWins (history : List (Nat × Materialized)) : Prop where
  found : ∀ front, front <+: history → ∀ offset,
    (inserted {} front).get? offset = front.lookup offset
  counted : ∀ front, front <+: history →
    (inserted {} front).size = (front.map Prod.fst).toFinset.card
  refused : ∀ front offset globals, front ++ [(offset, globals)] <+: history →
    offset ∈ front.map Prod.fst →
      (inserted {} front).insert offset globals =
        (.error (.breach (.materializedTwice offset)), inserted {} front)

theorem Consistent.front {front history : List (Nat × Materialized)}
    (consistent : Consistent history) (early : front <+: history) : Consistent front :=
  fun offset globals other member again =>
    consistent offset globals other (early.subset member) (early.subset again)

theorem Consistent.firstWins {history : List (Nat × Materialized)}
    (consistent : Consistent history) : FirstWins history where
  found front early offset := by
    rw [get?_inserted, (consistent.front early).lookup_reverse]
  counted front _ := inserted_size front
  refused front offset globals early before := by
    have consistentFront := (consistent.front early).front (List.prefix_append _ _)
    rcases List.mem_map.mp before with ⟨⟨place, held⟩, member, rfl⟩
    have same : held = globals :=
      consistent place held globals (early.subset (List.mem_append_left _ member))
        (early.subset (List.mem_append_right _ (List.mem_singleton_self _)))
    subst same
    have known : (inserted {} front).get? place = some held := by
      rw [get?_inserted, consistentFront.lookup_reverse, consistentFront.lookup]
      exact member
    refine Prod.ext ?_ ((insert_eq_self_iff (inserted_offsets front).1).mpr known)
    rw [inserted_insert, if_pos before]

/-- Under the law every insertion at an offset repeats the first one. -/
theorem FirstWins.consistent {history : List (Nat × Materialized)} (wins : FirstWins history) :
    Consistent history := by
  have first : ∀ {offset globals}, (offset, globals) ∈ history →
      history.lookup offset = some globals := by
    intro offset globals member
    rcases List.append_of_mem member with ⟨front, back, split⟩
    have early : front ++ [(offset, globals)] <+: history :=
      ⟨back, by rw [split, List.append_assoc, List.singleton_append]⟩
    have last := wins.found _ early offset
    rw [get?_inserted, List.reverse_concat, List.lookup_cons, beq_self_eq_true] at last
    rw [split, ← List.singleton_append, ← List.append_assoc, List.lookup_append, ← last]
    rfl
  intro offset globals other member again
  have same := (first member).symm.trans (first again)
  exact Option.some.inj same

/-- After any insertions an offset has the globals of the last insertion there, the size is the
number of distinct offsets, and exactly the insertions at an offset of the table are reported. So
the first insertion wins throughout a history if and only if no offset is inserted with different
globals. -/
theorem first_insertion_wins_iff (history : List (Nat × Materialized)) :
    (∀ offset, (inserted {} history).get? offset = history.reverse.lookup offset) ∧
      (inserted {} history).size = (history.map Prod.fst).toFinset.card ∧
      (∀ offset globals, ((inserted {} history).insert offset globals).1 =
        if offset ∈ history.map Prod.fst then .error (.breach (.materializedTwice offset))
        else .ok ()) ∧
      (FirstWins history ↔ Consistent history) :=
  ⟨get?_inserted history, inserted_size history, inserted_insert history,
    FirstWins.consistent, Consistent.firstWins⟩

/-- A refused insertion takes the place of the first one. -/
theorem refused_insertion_replaces :
    let first : MaterializedTable := inserted {} [(0, .scalar 0)]
    let history : List (Nat × Materialized) := [(0, .scalar 0), (0, .scalar 1)]
    first.get? 0 = some (.scalar 0) ∧
      first.insert 0 (.scalar 1) = (.error (.breach (.materializedTwice 0)), inserted {} history) ∧
      (inserted {} history).get? 0 = some (.scalar 1) ∧ ¬ FirstWins history := by
  intro first history
  refine ⟨rfl, rfl, rfl, fun wins => ?_⟩
  have claimed := wins.found history List.prefix_rfl 0
  exact absurd claimed (by decide)

end MaterializedTable

/-- A literal is reloaded from the globals of the last insertion at its offset. -/
theorem reload_inserted {session : Session} {history : List (Nat × Materialized)}
    (table : session.table = MaterializedTable.inserted {} history) {offset : Nat}
    {globals : Materialized} (last : history.reverse.lookup offset = some globals) :
    session.reload offset globals.isText =
      .ok ((session.code.loadAll globals.globals).1,
        { session with code := (session.code.loadAll globals.globals).2 }) := by
  refine reload_eq ?_
  rw [table, MaterializedTable.get?_inserted, last]

/-- A null and a string are hoisted against one dictionary. Behind a refused insertion of the
globals of the null, the string evaluates to the id of the nulls when it is hoisted again. -/
example :
    let hoist (workspace : Workspace) (constant : Sql.Constant) :=
      workspace.generate constant ⟨.dictionary, 1⟩ true
    let started : Workspace :=
      { session := { code := { name := "kernel" }, buffers := [{}] }
        registry := Dictionary.Registry.register {} 1 (.ofList ["one"]) }
    let null := hoist started (.null (.ofKind .text))
    let first := hoist null.2 (.ofString "one")
    let refused := first.2.session.table.insert 4 (.scalar 0)
    let again := hoist { first.2 with session.table := refused.2 } (.ofString "one")
    let image : Array UInt8 := #[0, 0, 0, 128, 0, 0, 0, 0]
    refused.1 = .error (.breach (.materializedTwice 4)) ∧
      first.1 = .ok [.result 7 (.int 32)] ∧ again.1 = .ok [.result 8 (.int 32)] ∧
      again.2.session.serialize = .ok [image] ∧
      again.2.session.code.evaluate image [.result 7 (.int 32), .result 8 (.int 32)] =
        .ok [.int 32 0, .int 32 Sql.nullId.toInt64] := by
  decide +kernel

end Session

end QueryKernel
