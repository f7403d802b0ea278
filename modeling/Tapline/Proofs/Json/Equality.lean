import Mathlib.Data.List.Forall2
import Tapline.Proofs.Json.ReadBack
/-!
# Equality of documents

Documents are compared sort by sort. Equality is symmetric and transitive; a double that is no
number is not even equal to itself, and both zeros are equal though they are written differently.
Doubles apart, equal documents are the same.
-/

namespace Tapline

namespace Binary64

theorem equals_self (x : Binary64) : x.equals x = !x.isNaN := by simp [equals]

theorem equals_symm {x y : Binary64} (same : x.equals y = true) : y.equals x = true := by
  simp only [equals, Bool.and_eq_true, beq_iff_eq] at same ⊢
  exact ⟨⟨same.1.2, same.1.1⟩, same.2.symm⟩

theorem equals_trans {x y z : Binary64} (first : x.equals y = true) (second : y.equals z = true) :
    x.equals z = true := by
  simp only [equals, Bool.and_eq_true, beq_iff_eq] at first second ⊢
  exact ⟨⟨first.1.1, second.1.2⟩, first.2.trans second.2⟩

end Binary64

/-! ### Rows of parts -/

section Rows

variable {α : Type u} {β : Type v} {γ : Type w} {as : List α} {bs : List β} {cs : List γ}

/-- A relation of rows, changed for their members. -/
theorem forall₂_of_mem {R S : α → β → Prop} (each : List.Forall₂ R as bs)
    (changed : ∀ a ∈ as, ∀ b ∈ bs, R a b → S a b) : List.Forall₂ S as bs := by
  induction each with
  | nil => exact .nil
  | cons head _ ih =>
    apply List.Forall₂.cons (changed _ List.mem_cons_self _ List.mem_cons_self head)
    apply ih
    intro a inside b within
    exact changed a (List.mem_cons_of_mem _ inside) b (List.mem_cons_of_mem _ within)

theorem forall₂_comp {R : α → β → Prop} {S : β → γ → Prop} (first : List.Forall₂ R as bs)
    (second : List.Forall₂ S bs cs) : List.Forall₂ (fun a c => ∃ b, R a b ∧ S b c) as cs := by
  induction first generalizing cs with
  | nil =>
    cases second
    exact .nil
  | cons head _ ih =>
    cases second with
    | cons head' rest => exact .cons ⟨_, head, head'⟩ (ih rest)

/-- Two rows that are related to a third one, beside what relates them to each other. -/
theorem forall₂_and_of_common {R : α → β → Prop} {S : α → γ → Prop} {T : β → γ → Prop}
    (each : List.Forall₂ R as bs) (left : List.Forall₂ S as cs) (right : List.Forall₂ T bs cs) :
    List.Forall₂ (fun a b => R a b ∧ ∃ c, S a c ∧ T b c) as bs := by
  induction each generalizing cs with
  | nil => exact .nil
  | cons head _ ih =>
    cases left with
    | cons first rest =>
      cases right with
      | cons second others => exact .cons ⟨head, _, first, second⟩ (ih rest others)

end Rows

namespace Json

/-- Induction over a document by its items and members. -/
theorem parts_induction {motive : Json → Prop}
    (step : ∀ document, (∀ items, document = .array items → ∀ item ∈ items, motive item) →
      (∀ members, document = .object members → ∀ member ∈ members, motive member.2) →
      motive document) (document : Json) : motive document := by
  apply step
  · intro items shape item member
    exact parts_induction step item
  · intro members shape entry member
    exact parts_induction step entry.2
termination_by sizeOf document
decreasing_by
  · have less := List.sizeOf_lt_of_mem member
    rw [shape, array.sizeOf_spec]
    omega
  · have less := sizeOf_value_lt member
    rw [shape, object.sizeOf_spec]
    omega

/-! ### One comparison -/

/-- The sorts of documents that are equal only to themselves. -/
def isAtom : Json → Bool
  | .null | .bool _ | .string _ | .number (.integer _) => true
  | _ => false

/-- One comparison: what it comes to for the parts of two documents. -/
inductive Matches : Json → Json → Prop
  | atom {document : Json} (atomic : document.isAtom = true) : Matches document document
  | double {x y : Binary64} (same : x.equals y = true) :
      Matches (.number (.double x)) (.number (.double y))
  | array {items others : List Json}
      (each : List.Forall₂ (fun a b => a.equals b = true) items others) :
      Matches (.array items) (.array others)
  | object {members others : List (String × Json)}
      (each : List.Forall₂ (fun a b => a.1 = b.1 ∧ a.2.equals b.2 = true) members others) :
      Matches (.object members) (.object others)

theorem equalsItems_iff {items others : List Json} : equalsItems items others = true ↔
    List.Forall₂ (fun a b => a.equals b = true) items others := by
  induction items generalizing others with
  | nil => cases others <;> simp [equalsItems]
  | cons item rest ih => cases others <;> simp [equalsItems, ih]

theorem equalsMembers_iff {members others : List (String × Json)} :
    equalsMembers members others = true ↔
      List.Forall₂ (fun a b => a.1 = b.1 ∧ a.2.equals b.2 = true) members others := by
  induction members generalizing others with
  | nil => cases others <;> simp [equalsMembers]
  | cons member rest ih =>
    obtain ⟨key, value⟩ := member
    cases others <;> simp [equalsMembers, ih]

theorem equals_iff {a b : Json} : a.equals b = true ↔ Matches a b := by
  constructor
  · intro same
    unfold equals at same
    split at same
    · exact .atom rfl
    · obtain rfl := eq_of_beq same
      exact .atom rfl
    next m n =>
      cases m <;> cases n <;> simp only [JsonNumber.equals, Bool.false_eq_true] at same
      · obtain rfl := eq_of_beq same
        exact .atom rfl
      · exact .double same
    · obtain rfl := eq_of_beq same
      exact .atom rfl
    · exact .array (equalsItems_iff.mp same)
    · exact .object (equalsMembers_iff.mp same)
    · cases same
  · rintro (atomic | same | each | each)
    -- Every sort that is an atom compares by content.
    · unfold isAtom at atomic
      split at atomic <;> simp_all [equals, JsonNumber.equals]
    · rwa [equals, JsonNumber.equals]
    · rwa [equals, equalsItems_iff]
    · rwa [equals, equalsMembers_iff]

/-! ### A partial equivalence -/

theorem equals_symm {a b : Json} (same : a.equals b = true) : b.equals a = true := by
  induction a using parts_induction generalizing b with
  | step a items members =>
    rw [equals_iff] at same ⊢
    cases same with
    | atom atomic => exact .atom atomic
    | double same => exact .double (Binary64.equals_symm same)
    | array each => exact .array (forall₂_of_mem each fun x inside _ _ => items _ rfl x inside).flip
    | object each =>
      refine .object (forall₂_of_mem each fun x inside _ _ both => ?_).flip
      exact ⟨both.1.symm, members _ rfl x inside both.2⟩

theorem equals_trans {a b c : Json} (first : a.equals b = true) (second : b.equals c = true) :
    a.equals c = true := by
  induction a using parts_induction generalizing b c with
  | step a items members =>
    rw [equals_iff] at first
    cases first with
    | atom => exact second
    | double same =>
      rw [equals_iff] at second ⊢
      cases second with
      | atom atomic => cases atomic
      | double same' => exact .double (Binary64.equals_trans same same')
    | array each =>
      rw [equals_iff] at second ⊢
      cases second with
      | atom atomic => cases atomic
      | array each' =>
        refine .array (forall₂_of_mem (forall₂_comp each each') fun x inside z _ between => ?_)
        obtain ⟨y, same, same'⟩ := between
        exact items _ rfl x inside same same'
    | object each =>
      rw [equals_iff] at second ⊢
      cases second with
      | atom atomic => cases atomic
      | object each' =>
        refine .object (forall₂_of_mem (forall₂_comp each each') fun x inside z _ between => ?_)
        obtain ⟨y, ⟨key, same⟩, key', same'⟩ := between
        exact ⟨key.trans key', members _ rfl x inside same same'⟩

/-- Every double in a document is a number. -/
def Numeric (document : Json) : Prop :=
  ∀ x, Within (.number (.double x)) document → x.isNaN = false

/-- What is equal to itself has parts that are. -/
theorem equals_self_of_within {part document : Json} (inside : Within part document)
    (same : document.equals document = true) : part.equals part = true := by
  induction inside with
  | here => exact same
  | item member _ ih =>
    rw [equals, equalsItems_iff, List.forall₂_same] at same
    exact ih (same _ member)
  | member member _ ih =>
    rw [equals, equalsMembers_iff, List.forall₂_same] at same
    exact ih (same _ member).2

/-- A document is equal to itself unless a double in it is no number. -/
theorem equals_self_iff {document : Json} :
    document.equals document = true ↔ document.Numeric := by
  refine ⟨fun same x inside => ?_, fun numeric => ?_⟩
  · have equal := equals_self_of_within inside same
    rw [equals, JsonNumber.equals, Binary64.equals_self] at equal
    simpa using equal
  · induction document using parts_induction with
    | step document items members =>
      rw [equals_iff]
      match document with
      | .null | .bool _ | .string _ | .number (.integer _) => exact .atom rfl
      | .number (.double x) =>
        apply Matches.double
        rw [Binary64.equals_self, numeric x .here]
        rfl
      | .array parts =>
        apply Matches.array
        rw [List.forall₂_same]
        intro item member
        exact items _ rfl item member fun x inside => numeric x (.item member inside)
      | .object parts =>
        apply Matches.object
        rw [List.forall₂_same]
        refine fun entry member => ⟨rfl, members _ rfl entry member fun x inside => ?_⟩
        exact numeric x (.member member inside)

/-- Doubles apart, equal documents are the same. -/
theorem eq_of_equals {a b : Json} (clear : a.NoDouble) (same : a.equals b = true) : a = b := by
  induction a using parts_induction generalizing b with
  | step a items members =>
    rw [equals_iff] at same
    cases same with
    | atom => rfl
    | double => exact absurd .here (clear _)
    | array each =>
      congr 1
      rw [← List.forall₂_eq_eq_eq]
      refine forall₂_of_mem each fun x inside y _ same => ?_
      exact items _ rfl x inside (fun n within => clear n (.item inside within)) same
    | object each =>
      congr 1
      rw [← List.forall₂_eq_eq_eq]
      refine forall₂_of_mem each fun x inside y _ both => ?_
      have value := members _ rfl x inside (fun n within => clear n (.member inside within)) both.2
      exact Prod.ext both.1 value

end Json

end Tapline
