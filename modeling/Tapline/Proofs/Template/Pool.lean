import Tapline.Proofs.Text.Unbroken
import Tapline.Template.Pool
import Tapline.Template.Render
/-!
# Lines built in place

A line that is built at the end of a growing text, in the pooled buffer or in a fresh one, is the
line that the segments contribute part by part: what stood in the text before stays, what the
buffer held before is of no consequence, and neither is whether a field function asked for the
buffer while it was in use.
-/

namespace Tapline

theorem replaceChar_breaks (cs : List Char) :
    replaceChar '\r' '\\' 'r' (replaceChar '\n' '\\' 'n' cs) = cs.flatMap Text.inlineChar := by
  simp only [replaceChar, List.flatMap_assoc]
  congr 1
  funext c
  unfold Text.inlineChar
  by_cases feed : c = '\n'
  · simp [feed]
  · by_cases carriage : c = '\r'
    · simp [carriage]
    · simp [feed, carriage]

/-- Escaping the part appended is appending the escaped text. -/
theorem appendInline_eq (line text : String) :
    appendInline line text = line ++ Text.inline text := by
  unfold appendInline Text.inline
  split
  · rw [replaceChar_breaks]
  · rfl

theorem appendGroup_eq (line : String) (fields : List Field) :
    appendGroup line fields =
      ⟨line ++ (Field.groupText fields).value, (Field.groupText fields).notices⟩ := by
  simp only [appendGroup, Field.groupText]
  cases (Value.map (Field.members fields).entries).jsonText with
  | ok text => rfl
  | error cause => simp [appendInline_eq]

mutual

theorem Probe.build_eq : ∀ (probe : Probe) (pool : LinePool),
    (probe.build pool).value = probe.field.value ∧ (probe.build pool).notices = probe.field.notices
  | .done field, pool => by simp [Probe.build, Probe.field, Noted.pure]
  | .report notice next, pool => by
    have rest := Probe.build_eq next pool
    simp [Probe.build, Probe.field, rest]
  | .render .bytes segments bag next, pool => by
    -- The buffer may be in use or free; the inner line comes out the same.
    unfold Probe.build Probe.field
    split
    · have body := buildBody_eq segments bag "" pool
      have rest := fun pool => Probe.build_eq (next ((bodyText segments bag).value ++ "\n")) pool
      simp [body, rest]
    · have body := buildBody_eq segments bag "" pool.claim
      have rest := fun pool => Probe.build_eq (next ((bodyText segments bag).value ++ "\n")) pool
      simp [body, rest]
  | .render .fresh segments bag next, pool => by
    have body := buildBody_eq segments bag "" pool
    have rest := fun pool => Probe.build_eq (next ((bodyText segments bag).value ++ "\n")) pool
    simp [Probe.build, Probe.field, body, rest]

theorem Segment.build_eq : ∀ (segment : Segment) (bag : Bag) (line : String) (pool : LinePool),
    (segment.build bag line pool).value = line ++ (segment.text bag).value ∧
      (segment.build bag line pool).notices = (segment.text bag).notices
  | .literal text, bag, line, pool => by simp [Segment.build, Segment.text, Noted.pure]
  | .call f, bag, line, pool => by
    have field := Probe.build_eq (f bag) pool
    simp only [Segment.build, Segment.text, field, Field.text, appendInline_eq, and_true]
    split
    · simp
    · rfl
  | .group fs, bag, line, pool => by
    have fields := buildFields_eq fs bag pool
    simp [Segment.build, Segment.text, fields, appendGroup_eq]

theorem buildFields_eq : ∀ (fs : List (Bag → Probe)) (bag : Bag) (pool : LinePool),
    (buildFields fs bag pool).value = (groupFields fs bag).value ∧
      (buildFields fs bag pool).notices = (groupFields fs bag).notices
  | [], bag, pool => by simp [buildFields, groupFields, Noted.pure]
  | f :: rest, bag, pool => by
    have field := Probe.build_eq (f bag) pool
    have fields := fun pool => buildFields_eq rest bag pool
    simp [buildFields, groupFields, field, fields]

theorem buildBody_eq : ∀ (segments : List Segment) (bag : Bag) (line : String) (pool : LinePool),
    (buildBody segments bag line pool).value = line ++ (bodyText segments bag).value ∧
      (buildBody segments bag line pool).notices = (bodyText segments bag).notices
  | [], bag, line, pool => by simp [buildBody, bodyText, Noted.pure]
  | segment :: rest, bag, line, pool => by
    have first := Segment.build_eq segment bag line pool
    have body := fun line pool => buildBody_eq rest bag line pool
    simp [buildBody, bodyText, first, body, String.append_assoc]

end

namespace Template

variable {α : Type u} (t : Template) (bag : Bag) (pool : LinePool)

theorem buildText_value : (t.buildText bag pool).value = (t.line bag).value := by
  simp [buildText, line, buildBody_eq]

/-- Whoever uses a line gets the same one, whatever state the buffer is in. -/
theorem withLine_value (use : String → α) :
    (t.withLine bag pool use).value = use (t.line bag).value := by
  unfold withLine
  split
  · simp [buildText_value]
  · simp [line, buildBody_eq]

end Template

end Tapline
