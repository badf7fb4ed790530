import Mathlib.Data.List.Forall2
import TelemetryRelay.Proofs.Json.Compact
import TelemetryRelay.Proofs.Json.Shapes

/-! # The members of an object

    An object is told by its members, each with its name and its text. Two lists of members
    for one text of an object are the same list, so that it makes sense to ask of a text
    which members it has of a name: one, none or several.
-/

namespace TelemetryRelay

namespace Json

open Results (bind_eq)

/-! ## Section 1: One text, one list of members -/

/-- Takes a member with the text of its value as it stands. -/
def keepMember (members : List (String × Bytes)) (name : String) :
    Reader (List (String × Bytes)) := fun octets => do
  let ((), rest) ← colon octets
  let after ← skipValue rest
  let text := skipSpace rest
  .ok (members ++ [(name, text.take (text.length - after.length))], after)

/-- What one member does to those before it. -/
def Keeps (members : List (String × Bytes)) (member : String × Bytes)
    (members' : List (String × Bytes)) : Prop :=
  members' = members ++ [member]

theorem through_keeps (back : List (String × Bytes)) : ∀ front : List (String × Bytes),
    Through Keeps front back (front ++ back) := by
  induction back with
  | nil =>
    intro front
    rw [List.append_nil]
    exact .nil front
  | cons member back ih =>
    intro front
    have hnext := ih (front ++ [member])
    rw [List.append_assoc] at hnext
    exact .cons _ _ _ _ _ rfl hnext

theorem takes_keepMember : Takes keepMember Verbatim Keeps := by
  rintro members name _ members' text between after rest hkeeps hbetween hafter ⟨rfl, htext⟩ hrest
  have hskip : skipSpace (after ++ (text ++ rest)) = text ++ rest := by
    obtain ⟨b, more, rfl, hb⟩ := htext.exists_cons
    exact skipSpace_append_cons hafter hb.1 _
  -- what the skipped octets leave behind is cut off at the end
  have htake : (text ++ rest).take ((text ++ rest).length - rest.length) = text := by
    rw [List.length_append, Nat.add_sub_cancel, List.take_left]
  rw [keepMember, bind_eq (colon_append hbetween _)]
  dsimp only
  rw [bind_eq (skipValue_append hafter htext hrest), hskip, htake]
  exact congrArg (fun kept => Except.ok (kept, rest)) hkeeps.symm

/-- Reads an object as its members. -/
def memberTexts : Reader (List (String × Bytes)) := fun octets =>
  match skipSpace octets with
  | [] => .error .endOfValue
  | _ :: rest => do
    let (members, rest) ← openFields keepMember [] rest
    let ((), rest) ← closeObject rest
    .ok (members, rest)

theorem closeObject_append {gap : Bytes} (h : IsBlank gap) (rest : Bytes) :
    closeObject (gap ++ 125 :: rest) = .ok ((), rest) := by
  rw [closeObject, skipSpace_append_cons h (by decide)]
  rfl

theorem reads_memberTexts : Reads memberTexts ObjectText := by
  rintro members _ gap rest hgap ⟨inner, hinner, rfl⟩ _
  have hread := openFields_append takes_keepMember hinner (through_keeps members []) rest
  simp only [List.cons_append, List.append_assoc, List.nil_append] at hread ⊢
  rw [memberTexts, skipSpace_append_cons hgap (by decide)]
  dsimp only
  rw [bind_eq hread]
  exact bind_eq (closeObject_append isBlank_nil rest) _

/-- **Members** are determined by the text of the object. -/
theorem members_unique {members members' : List (String × Bytes)} {octets : Bytes}
    (h : Document ObjectText members octets) (h' : Document ObjectText members' octets) :
    members = members' := by
  have hread := document_of_reads reads_memberTexts h
  rw [document_of_reads reads_memberTexts h'] at hread
  exact (Except.ok.inj hread).symm

/-! ## Section 2: Members of a name -/

section Names

variable {α β : Type} {R : α → β → Prop} {members : List (String × α)}
  {members' : List (String × β)}

/-- Members that go along with others are of a name where those are. -/
theorem filter_related {p : String → Bool}
    (h : List.Forall₂ (fun x y => y.1 = x.1 ∧ R x.2 y.2) members members') :
    List.Forall₂ (fun x y => y.1 = x.1 ∧ R x.2 y.2)
      (members.filter fun member => p member.1) (members'.filter fun member => p member.1) := by
  induction h with
  | nil => exact .nil
  | cons hhead _ ih =>
    rw [List.filter_cons, List.filter_cons, hhead.1]
    split
    · exact .cons hhead ih
    · exact ih

/-- The only member of a name goes along with the only other one. -/
theorem filter_eq_singleton {name : String} {x : α}
    (h : List.Forall₂ (fun x y => y.1 = x.1 ∧ R x.2 y.2) members members')
    (hfilter : members.filter (fun member => member.1 == name) = [(name, x)]) :
    ∃ y, R x y ∧ members'.filter (fun member => member.1 == name) = [(name, y)] := by
  have hrelated := filter_related (p := fun key => key == name) h
  rw [hfilter] at hrelated
  obtain ⟨y, rest, ⟨hname, hvalue⟩, hnil, hfilter'⟩ := List.forall₂_cons_left_iff.mp hrelated
  cases hnil
  have hsame : y = (name, y.2) := Prod.ext hname rfl
  exact ⟨y.2, hvalue, hfilter'.trans (congrArg (fun member => [member]) hsame)⟩

end Names

/-- **Amiss**: there is no member of this name, or several, or one whose text is none of
    these. -/
def Amiss (members : List (String × Bytes)) (name : String) (P : Bytes → Prop) : Prop :=
  Lacks members name ∨ 2 ≤ (members.filter fun member => member.1 == name).length ∨
    ∃ text, (name, text) ∈ members ∧ ¬ P text

theorem Holds.imp {α β : Type} {members : List (String × Bytes)} {name : String}
    {form : α → Bytes → Prop} {form' : β → Bytes → Prop} {x : α} {y : β}
    (h : Holds members name form x) (himp : ∀ text, form x text → form' y text) :
    Holds members name form' y := by
  obtain ⟨text, htext, hfilter⟩ := h
  exact ⟨text, himp text htext, hfilter⟩

theorem Holds.form_of_mem {α : Type} {members : List (String × Bytes)} {name : String}
    {form : α → Bytes → Prop} {x : α} {text : Bytes} (h : Holds members name form x)
    (hmem : (name, text) ∈ members) : form x text := by
  obtain ⟨text', htext, hfilter⟩ := h
  have hfound : (name, text) ∈ members.filter fun member => member.1 == name :=
    List.mem_filter.mpr ⟨hmem, beq_self_eq_true name⟩
  rw [hfilter, List.mem_singleton] at hfound
  rw [(Prod.mk.inj hfound).2]
  exact htext

theorem Holds.not_amiss {α : Type} {members : List (String × Bytes)} {name : String}
    {form : α → Bytes → Prop} {x : α} {P : Bytes → Prop} (h : Holds members name form x)
    (hP : ∀ text, form x text → P text) : ¬ Amiss members name P := by
  rintro (hlacks | hseveral | ⟨text, hmem, hnot⟩)
  · obtain ⟨text, -, hfilter⟩ := h
    rw [Lacks, hfilter] at hlacks
    cases hlacks
  · obtain ⟨text, -, hfilter⟩ := h
    rw [hfilter, List.length_singleton] at hseveral
    omega
  · exact hnot (hP text (h.form_of_mem hmem))

/-! ## Section 3: Members as they are written -/

/-- Members with the octets of their texts. -/
def octetMembers (members : List (String × String)) : List (String × Bytes) :=
  members.map fun member => (member.1, Bytes.ofText member.2)

/-- What is written for members is an object of them. -/
theorem document_objectText {members : List (String × String)}
    (h : ∀ member ∈ members, IsValue (Bytes.ofText member.2)) :
    Document ObjectText (octetMembers members) (Bytes.ofText (objectText members)) := by
  have hinner : Elements (Member Verbatim) (octetMembers members) (Bytes.ofText (commas
      (members.map fun member => stringText member.1 ++ ":" ++ member.2))) := by
    refine Elements.map (elements_commas fun member hmem => ?_)
    exact member_written member.1 ⟨rfl, h member hmem⟩
  refine ⟨[], _, [], isBlank_nil, ⟨_, hinner, rfl⟩, isBlank_nil, ?_⟩
  rw [objectText, Bytes.ofText_append, Bytes.ofText_append, List.nil_append, List.append_nil]
  rfl

end Json

end TelemetryRelay
