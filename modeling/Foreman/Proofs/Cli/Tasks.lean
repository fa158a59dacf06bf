import Foreman.Cli.Run
import Foreman.Proofs.Json.Reading
import Foreman.Proofs.Text.Words

set_option autoImplicit false

namespace Foreman.Cli

def referencePart (task : String) : String :=
  String.ofList (task.toList.takeWhile (· != '='))

def Proper (text : List Char) : Prop :=
  ∃ tree : Json.Tree, tree.Fills text ∧ tree.depth ≤ 127 ∧ tree.InRange

def Malformed (task : String) : Prop :=
  ∃ before text, task.toList = before ++ '=' :: text ∧ '=' ∉ before ∧ ¬ Proper text

theorem proper_iff (text : List Char) :
    Proper text ↔ ∃ value, Json.read (String.ofList text) = .ok value := by
  rw [Json.readable_iff, String.toList_ofList, Proper]

section Parts

variable (before text : List Char) (absent : '=' ∉ before)

include absent

theorem split_equal_first : Options.splitEqual (before ++ '=' :: text) = (before, some text) := by
  rw [Options.splitEqual, Text.drop_unmarked '=' before text absent,
    Text.take_unmarked '=' before text absent]

theorem split_equal_none :
    Options.splitEqual before = (before, none) ∧ before.takeWhile (· != '=') = before := by
  have whole := Text.mark_differs '=' before absent
  have dropped : before.dropWhile (· != '=') = [] := by
    have rest : (before ++ []).dropWhile (· != '=') = [] := List.dropWhile_append_of_pos whole
    rwa [List.append_nil] at rest
  have taken : (before ++ []).takeWhile (· != '=') = before ++ [] :=
    List.takeWhile_append_of_pos whole
  rw [List.append_nil] at taken
  exact ⟨by rw [Options.splitEqual, dropped], taken⟩

end Parts

theorem with_arguments_named (request : Request) (value : Json) :
    (withArguments request value).reference = request.reference := by
  cases value <;> rfl

theorem request_malformed (task : String) (malformed : Malformed task) :
    ∃ message, requestOf task = .error message := by
  obtain ⟨before, text, shape, absent, improper⟩ := malformed
  rw [requestOf, shape, split_equal_first before text absent]
  cases read : Json.read (String.ofList text) with
  | ok value => exact absurd ((proper_iff text).mpr ⟨value, read⟩) improper
  | error cause =>
      simp only [read]
      exact ⟨_, rfl⟩

theorem request_proper (task : String) (proper : ¬ Malformed task) :
    ∃ request, requestOf task = .ok request ∧ request.reference = referencePart task := by
  by_cases signed : '=' ∈ task.toList
  · obtain ⟨before, text, shape, absent⟩ := List.eq_append_cons_of_mem signed
    rw [requestOf, referencePart, shape, split_equal_first before text absent,
      Text.take_unmarked '=' before text absent]
    cases read : Json.read (String.ofList text) with
    | ok value =>
        simp only [read]
        exact ⟨_, rfl, with_arguments_named _ value⟩
    | error cause =>
        refine absurd ⟨before, text, shape, absent, fun own => ?_⟩ proper
        obtain ⟨value, readable⟩ := (proper_iff text).mp own
        rw [read] at readable
        cases readable
  · obtain ⟨split, taken⟩ := split_equal_none task.toList signed
    rw [requestOf, referencePart, split, taken]
    exact ⟨_, rfl, rfl⟩

theorem requests_malformed (tasks : List String) (task : String) (member : task ∈ tasks)
    (malformed : Malformed task) : ∃ message, requestsOf tasks = .error message := by
  induction tasks with
  | nil => cases member
  | cons first rest ih =>
      rw [requestsOf]
      cases own : requestOf first with
      | error message => exact ⟨message, rfl⟩
      | ok request =>
          rcases List.mem_cons.mp member with rfl | later
          · obtain ⟨message, refused⟩ := request_malformed task malformed
            rw [own] at refused
            cases refused
          · obtain ⟨message, refused⟩ := ih later
            exact ⟨message, by rw [refused]; rfl⟩

theorem requests_proper (tasks : List String) (proper : ∀ task ∈ tasks, ¬ Malformed task) :
    ∃ requests, requestsOf tasks = .ok requests ∧
      requests.map Request.reference = tasks.map referencePart := by
  induction tasks with
  | nil => exact ⟨[], rfl, rfl⟩
  | cons first rest ih =>
      obtain ⟨own, others⟩ := List.forall_mem_cons.mp proper
      obtain ⟨request, read, named⟩ := request_proper first own
      obtain ⟨requests, later, references⟩ := ih others
      refine ⟨request :: requests, ?_, ?_⟩
      · rw [requestsOf, read, later]
        rfl
      · rw [List.map_cons, List.map_cons, named, references]

end Foreman.Cli
