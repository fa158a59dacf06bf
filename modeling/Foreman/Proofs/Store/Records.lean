import Foreman.Store
import Mathlib.Data.List.Nodup

set_option autoImplicit false

namespace Foreman.Store

def ids (store : Store) : List TaskId := store.records.map TaskRecord.id

def tally (store : Store) (state : TaskState) : Nat :=
  store.records.countP fun record => record.state == state

def activeIds (store : Store) : List TaskId :=
  (store.records.filter fun record => !record.state.isTerminal).map TaskRecord.id

structure Intact (store : Store) : Prop where
  serving : store.refused = []
  distinct : store.ids.Nodup

theorem permit_open (store : Store) (intact : store.Intact) (access : Access) :
    store.permit access = .ok () := by
  simp [permit, intact.serving]

theorem get_intact (store : Store) (intact : store.Intact) (id : TaskId) :
    store.get id = .ok (store.find? id) := by
  simp [get, permit_open store intact, bind, Except.bind]

theorem insert_intact (store : Store) (intact : store.Intact) (record : TaskRecord)
    (absent : store.find? record.id = none) :
    store.insert record = .ok { store with records := store.records ++ [record] } := by
  simp [insert, permit_open store intact, absent, bind, Except.bind]

theorem insert_known (store : Store) (intact : store.Intact) (record known : TaskRecord)
    (found : store.find? record.id = some known) :
    store.insert record = .error (.duplicate record.id) := by
  simp [insert, permit_open store intact, found, bind, Except.bind]

theorem evict_intact (store : Store) (intact : store.Intact) (id : TaskId) :
    store.evict id = .ok (store.find? id, store.remove id) := by
  simp [evict, permit_open store intact, bind, Except.bind]

theorem find_has_id (store : Store) (id : TaskId) (record : TaskRecord)
    (found : store.find? id = some record) : record.id = id := by
  simpa using List.find?_some found

theorem find_member (store : Store) (id : TaskId) (record : TaskRecord)
    (found : store.find? id = some record) : record ∈ store.records :=
  List.mem_of_find?_eq_some found

theorem find_none_iff (store : Store) (id : TaskId) : store.find? id = none ↔ id ∉ store.ids := by
  simp [find?, ids]

theorem member_found (store : Store) (intact : store.Intact) (record : TaskRecord)
    (member : record ∈ store.records) : store.find? record.id = some record := by
  obtain ⟨before, after, split⟩ := List.append_of_mem member
  have distinct := intact.distinct
  rw [ids, split, List.map_append, List.map_cons, List.nodup_append] at distinct
  rw [find?, split, List.find?_eq_some_iff_append]
  refine ⟨by simp, before, after, rfl, ?_⟩
  intro other earlier
  have different := distinct.2.2 other.id (List.mem_map_of_mem earlier) record.id (by simp)
  simpa using different

theorem find_update (store : Store) (changed : TaskRecord) (id : TaskId) :
    (store.update changed).find? id =
      (store.find? id).map fun old => if old.id = changed.id then changed else old := by
  have sameTest : ((fun record => record.id == id) ∘ fun old : TaskRecord =>
      if old.id = changed.id then changed else old) = fun record => record.id == id := by
    funext old
    by_cases same : old.id = changed.id <;> simp [same]
  simp only [find?, update, List.find?_map, sameTest]

theorem find_update_same (store : Store) (changed record : TaskRecord)
    (found : store.find? changed.id = some record) :
    (store.update changed).find? changed.id = some changed := by
  rw [find_update, found, Option.map_some, if_pos (find_has_id store changed.id record found)]

theorem find_update_other (store : Store) (changed : TaskRecord) (id : TaskId)
    (different : id ≠ changed.id) : (store.update changed).find? id = store.find? id := by
  rw [find_update]
  cases found : store.find? id with
  | none => rfl
  | some record =>
      have has := find_has_id store id record found
      simp [has, different]

theorem member_update (store : Store) (changed record : TaskRecord)
    (member : record ∈ (store.update changed).records) :
    record = changed ∨ record ∈ store.records := by
  obtain ⟨old, stored, same⟩ := List.mem_map.mp member
  by_cases hit : old.id = changed.id
  · exact .inl (same.symm.trans (if_pos hit))
  · rw [if_neg hit] at same
    exact .inr (same ▸ stored)

theorem find_remove_same (store : Store) (id : TaskId) : (store.remove id).find? id = none := by
  simp [find?, remove]

theorem find_remove_other (store : Store) (id other : TaskId) (different : other ≠ id) :
    (store.remove id).find? other = store.find? other := by
  simp only [find?, remove, List.find?_filter]
  congr 1
  funext record
  by_cases same : record.id = other <;> simp [same, different]

theorem find_append (store : Store) (record : TaskRecord) (id : TaskId)
    (absent : store.find? record.id = none) :
    ({ store with records := store.records ++ [record] } : Store).find? id =
      if record.id = id then some record else store.find? id := by
  by_cases same : record.id = id
  · subst same
    simp only [find?] at absent ⊢
    simp [List.find?_append, absent]
  · simp [find?, List.find?_append, same]

-- Everything about one record among the others follows from the place where it stands.
theorem found_splits (store : Store) (intact : store.Intact) (id : TaskId) (record : TaskRecord)
    (found : store.find? id = some record) :
    ∃ before after, store.records = before ++ record :: after ∧
      (∀ other ∈ before ++ after, other.id ≠ id) ∧
      (∀ changed : TaskRecord, changed.id = id →
        (store.update changed).records = before ++ changed :: after) ∧
      (store.remove id).records = before ++ after := by
  have has := find_has_id store id record found
  obtain ⟨before, after, split⟩ := List.append_of_mem (find_member store id record found)
  have distinct := intact.distinct
  rw [ids, split, List.map_append, List.map_cons, List.nodup_append] at distinct
  obtain ⟨_, afterDistinct, apart⟩ := distinct
  have beforeOther : ∀ other ∈ before, other.id ≠ id := by
    intro other member same
    exact apart other.id (List.mem_map_of_mem member) record.id (by simp) (same.trans has.symm)
  have afterOther : ∀ other ∈ after, other.id ≠ id := by
    intro other member same
    refine (List.nodup_cons.mp afterDistinct).1 ?_
    rw [has, ← same]
    exact List.mem_map_of_mem member
  refine ⟨before, after, split, ?_, ?_, ?_⟩
  · intro other member
    rcases List.mem_append.mp member with earlier | later
    · exact beforeOther other earlier
    · exact afterOther other later
  · intro changed same
    have keep (others : List TaskRecord) (different : ∀ other ∈ others, other.id ≠ id) :
        others.map (fun old => if old.id = id then changed else old) = others := by
      refine (List.map_congr_left ?_).trans (List.map_id others)
      intro other member
      simp [different other member]
    simp only [update, same, split, List.map_append, List.map_cons, keep before beforeOther,
      keep after afterOther, has, if_true]
  · have keep (others : List TaskRecord) (different : ∀ other ∈ others, other.id ≠ id) :
        others.filter (fun old => old.id != id) = others := by
      rw [List.filter_eq_self]
      intro other member
      simpa using different other member
    simp [remove, split, List.filter_append, keep before beforeOther, keep after afterOther, has]

theorem ids_update (store : Store) (changed : TaskRecord) :
    (store.update changed).ids = store.ids := by
  simp only [ids, update, List.map_map]
  apply List.map_congr_left
  intro old _
  by_cases same : old.id = changed.id <;> simp [same]

theorem intact_update (store : Store) (intact : store.Intact) (changed : TaskRecord) :
    (store.update changed).Intact := by
  refine ⟨intact.serving, ?_⟩
  rw [ids_update]
  exact intact.distinct

theorem intact_remove (store : Store) (intact : store.Intact) (id : TaskId) :
    (store.remove id).Intact :=
  ⟨intact.serving, intact.distinct.sublist ((List.filter_sublist).map _)⟩

theorem intact_append (store : Store) (intact : store.Intact) (record : TaskRecord)
    (absent : store.find? record.id = none) :
    ({ store with records := store.records ++ [record] } : Store).Intact := by
  refine ⟨intact.serving, ?_⟩
  have fresh := (find_none_iff store record.id).mp absent
  have distinct := intact.distinct
  simp only [ids, List.map_append, List.map_cons, List.map_nil, List.nodup_append] at distinct ⊢
  refine ⟨distinct, by simp, ?_⟩
  intro id member other single same
  rw [same, List.mem_singleton.mp single] at member
  exact fresh member

theorem tally_update (store : Store) (intact : store.Intact) (changed record : TaskRecord)
    (found : store.find? changed.id = some record) (state : TaskState) :
    (store.update changed).tally state + (if record.state = state then 1 else 0) =
      store.tally state + (if changed.state = state then 1 else 0) := by
  obtain ⟨before, after, split, _, updated, _⟩ := found_splits store intact _ record found
  simp only [tally, updated changed rfl, split, List.countP_append, List.countP_cons, beq_iff_eq]
  omega

theorem tally_remove (store : Store) (intact : store.Intact) (id : TaskId) (record : TaskRecord)
    (found : store.find? id = some record) (state : TaskState) :
    (store.remove id).tally state + (if record.state = state then 1 else 0) =
      store.tally state := by
  obtain ⟨before, after, split, _, _, removed⟩ := found_splits store intact id record found
  simp only [tally, removed, split, List.countP_append, List.countP_cons, beq_iff_eq]
  omega

theorem tally_append (store : Store) (record : TaskRecord) (state : TaskState) :
    ({ store with records := store.records ++ [record] } : Store).tally state =
      store.tally state + (if record.state = state then 1 else 0) := by
  simp [tally, List.countP_append, List.countP_cons]

theorem tally_positive (store : Store) (id : TaskId) (record : TaskRecord)
    (found : store.find? id = some record) : 0 < store.tally record.state :=
  List.countP_pos_iff.mpr ⟨record, find_member store id record found, by simp⟩

theorem active_update_active (store : Store) (intact : store.Intact) (changed record : TaskRecord)
    (found : store.find? changed.id = some record) (before : record.state.isTerminal = false)
    (still : changed.state.isTerminal = false) :
    (store.update changed).activeIds = store.activeIds := by
  have has := find_has_id store changed.id record found
  obtain ⟨front, back, split, _, updated, _⟩ := found_splits store intact _ record found
  simp [activeIds, updated changed rfl, split, List.filter_append, before, still, has]

theorem active_without (records : List TaskRecord) (id : TaskId)
    (different : ∀ other ∈ records, other.id ≠ id) :
    ((records.filter fun record => !record.state.isTerminal).map TaskRecord.id).filter (· != id) =
      (records.filter fun record => !record.state.isTerminal).map TaskRecord.id := by
  rw [List.filter_eq_self]
  intro other member
  obtain ⟨record, kept, rfl⟩ := List.mem_map.mp member
  simpa using different record (List.mem_of_mem_filter kept)

theorem active_update_terminal (store : Store) (intact : store.Intact)
    (changed record : TaskRecord) (found : store.find? changed.id = some record)
    (before : record.state.isTerminal = false) (ended : changed.state.isTerminal = true) :
    (store.update changed).activeIds = store.activeIds.filter (· != changed.id) := by
  have has := find_has_id store changed.id record found
  obtain ⟨front, back, split, others, updated, _⟩ := found_splits store intact _ record found
  have frontOther := active_without front changed.id fun other member => others other (by simp [member])
  have backOther := active_without back changed.id fun other member => others other (by simp [member])
  simp only [activeIds, updated changed rfl, split, List.filter_append, List.map_append,
    List.filter_cons, before, ended, frontOther]
  simp [has, backOther]

theorem active_remove_terminal (store : Store) (intact : store.Intact) (id : TaskId)
    (record : TaskRecord) (found : store.find? id = some record)
    (ended : record.state.isTerminal = true) : (store.remove id).activeIds = store.activeIds := by
  obtain ⟨front, back, split, _, _, removed⟩ := found_splits store intact id record found
  simp [activeIds, removed, split, List.filter_append, ended]

theorem active_append (store : Store) (record : TaskRecord) :
    ({ store with records := store.records ++ [record] } : Store).activeIds =
      store.activeIds ++ if record.state.isTerminal then [] else [record.id] := by
  by_cases ended : record.state.isTerminal = true <;> simp [activeIds, List.filter_append, ended]

theorem active_iff (store : Store) (intact : store.Intact) (id : TaskId) :
    id ∈ store.activeIds ↔
      ∃ record, store.find? id = some record ∧ record.state.isTerminal = false := by
  constructor
  · intro member
    obtain ⟨record, kept, rfl⟩ := List.mem_map.mp member
    obtain ⟨stored, active⟩ := List.mem_filter.mp kept
    exact ⟨record, member_found store intact record stored, by simpa using active⟩
  · rintro ⟨record, found, active⟩
    rw [← find_has_id store id record found]
    exact List.mem_map_of_mem (List.mem_filter.mpr ⟨find_member store id record found, by simp [active]⟩)

end Foreman.Store
