import ToolGateway.Gateway.Call
import ToolGateway.Limiter

/-!
# Keys of callers

The limiter knows a caller's calls to a tool of a server by one text in which the three names are
joined by colons. The name of the tool is anything the caller writes, colons included. The text
still tells the three apart when label and caller are without colons: the label ends at the first
colon behind the word that all keys begin with, and the caller begins behind the last one.
-/

namespace ToolGateway

/-- The calls that are limited together: those of one caller to one tool of one server. -/
structure Limiter.Subject where
  caller : String
  label : String
  tool : String
  deriving DecidableEq, Repr

/-- What a call is limited as. -/
def Call.subject (call : Call) : Limiter.Subject := ⟨call.caller, call.label, call.tool⟩

namespace Limiter

/-- The text by which the limiter knows a subject. -/
def Subject.key (subject : Subject) : String :=
  callKey subject.label subject.tool subject.caller

/-- Label and caller are without colons. -/
structure Subject.Separable (subject : Subject) : Prop where
  label : ':' ∉ subject.label.toList
  caller : ':' ∉ subject.caller.toList

/-- The first separator of a list cuts it in one way. -/
theorem append_cons_inj_of_notMem {α : Type} {separator : α} {front front' rest rest' : List α}
    (hfront : separator ∉ front) (hfront' : separator ∉ front')
    (h : front ++ separator :: rest = front' ++ separator :: rest') :
    front = front' ∧ rest = rest' := by
  induction front generalizing front' with
  | nil =>
    cases front' with
    | nil => exact ⟨rfl, List.tail_eq_of_cons_eq h⟩
    | cons x front' =>
      obtain rfl : separator = x := List.head_eq_of_cons_eq h
      exact absurd List.mem_cons_self hfront'
  | cons x front ih =>
    cases front' with
    | nil =>
      obtain rfl : x = separator := List.head_eq_of_cons_eq h
      exact absurd List.mem_cons_self hfront
    | cons x' front' =>
      obtain ⟨rfl, hbehind⟩ := List.cons_eq_cons.mp h
      have hnot : separator ∉ front := fun hmem => hfront (List.mem_cons_of_mem _ hmem)
      have hnot' : separator ∉ front' := fun hmem => hfront' (List.mem_cons_of_mem _ hmem)
      obtain ⟨hsame, hrest⟩ := ih hnot hnot' hbehind
      exact ⟨congrArg (x :: ·) hsame, hrest⟩

/-- So does the last one. -/
theorem append_cons_inj_of_notMem_behind {α : Type} {separator : α}
    {front front' rest rest' : List α} (hrest : separator ∉ rest) (hrest' : separator ∉ rest')
    (h : front ++ separator :: rest = front' ++ separator :: rest') :
    front = front' ∧ rest = rest' := by
  have hreverse : rest.reverse ++ separator :: front.reverse =
      rest'.reverse ++ separator :: front'.reverse := by
    simpa using congrArg List.reverse h
  obtain ⟨hr, hf⟩ := append_cons_inj_of_notMem (by simpa using hrest) (by simpa using hrest') hreverse
  exact ⟨List.reverse_inj.mp hf, List.reverse_inj.mp hr⟩

/-- Subjects whose label and caller are without colons have keys of their own, whatever their tools
are called. -/
theorem Subject.key_injective {subject other : Subject} (h : subject.Separable)
    (hother : other.Separable) (hkey : subject.key = other.key) : subject = other := by
  obtain ⟨caller, label, tool⟩ := subject
  obtain ⟨caller', label', tool'⟩ := other
  have hlist := congrArg String.toList hkey
  simp only [key, callKey, String.toList_append, List.append_assoc] at hlist
  have hbehind := List.append_cancel_left hlist
  -- The outer colons cut off label and caller; the tool is what is left between them.
  obtain ⟨hlabel, hrest⟩ := append_cons_inj_of_notMem h.label hother.label hbehind
  obtain ⟨htool, hcaller⟩ := append_cons_inj_of_notMem_behind h.caller hother.caller hrest
  rw [Subject.mk.injEq]
  exact ⟨String.toList_inj.mp hcaller, String.toList_inj.mp hlabel, String.toList_inj.mp htool⟩

end Limiter

end ToolGateway
