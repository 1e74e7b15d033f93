import Mathlib.Logic.Relation
import MarkdownTemplate.Proofs.Lines
import MarkdownTemplate.Proofs.Nesting

/-!
# What templates cite

An expansion reads templates one inside another and stops at the first fault. Whether there is one
can be told from the files, with no regard to the order in which they are read. This file fixes

* `Setting.DirectiveAt`, `Setting.Cites`, `Setting.CitesTemplate`, `Setting.Reaches` -- what stands
  in the files;
* `Setting.Expandable` -- a template all of whose citations can be followed to their end;
* `Expands.expandable`, `Expands.succeeds` -- what a run that succeeds says about the files, and
  what the files must be like for a run to succeed;
* `expand_ok_iff` -- a template expands exactly if every file that is cited can be read and no
  template cites itself through others.
-/

namespace MarkdownTemplate

namespace Setting

variable {s : Setting} {stack : Stack} {template p q : Path} {depth : Int} {number n : Nat}
  {line text : Text} {lines : List Text} {d : Directive} {r : Run}

/-! ## 1. What stands in the files -/

/-- Line `n` of the file at `p`, counted from one, is the directive `d`. -/
def DirectiveAt (s : Setting) (p : Path) (n : Nat) (d : Directive) : Prop :=
  ∃ text line, s.textOf? p = some text ∧
    (line, n) ∈ (Text.splitLines Text.isLineEnd text).zipIdx 1 ∧ s.directive? line = some d

/-- A directive in the file at `p` cites the file at `q`. -/
def Cites (s : Setting) (p q : Path) : Prop :=
  ∃ n d, s.DirectiveAt p n d ∧ d.citesFile = true ∧ d.includee p = q

/-- A directive in the template at `p` cites the file at `q` as a template. -/
def CitesTemplate (s : Setting) (p q : Path) : Prop :=
  ∃ n d, s.DirectiveAt p n d ∧ d.isRecursive = true ∧ d.includee p = q

/-- A chain of templates, each cited by the one before, leads from `p` to `q`. -/
def Reaches (s : Setting) : Path → Path → Prop :=
  Relation.ReflTransGen s.CitesTemplate

theorem CitesTemplate.cites (h : s.CitesTemplate p q) : s.Cites p q := by
  obtain ⟨n, d, hat, hrec, hq⟩ := h
  exact ⟨n, d, hat, citesFile_of_isRecursive hrec, hq⟩

/-- The lines, numbered from `number` on, stand in the file at `p`. -/
def StandIn (s : Setting) (p : Path) (number : Nat) (lines : List Text) : Prop :=
  ∃ text, s.textOf? p = some text ∧
    ∀ x ∈ lines.zipIdx number, x ∈ (Text.splitLines Text.isLineEnd text).zipIdx 1

theorem StandIn.directiveAt (h : s.StandIn p number (line :: lines))
    (hline : s.directive? (lineAt depth line) = some d) : s.DirectiveAt p number d := by
  obtain ⟨text, htext, hlines⟩ := h
  rw [directive?_lineAt] at hline
  exact ⟨text, line, htext, hlines (line, number) (by simp), hline⟩

theorem StandIn.tail (h : s.StandIn p number (line :: lines)) :
    s.StandIn p (number + 1) lines := by
  obtain ⟨text, htext, hlines⟩ := h
  refine ⟨text, htext, fun x hx => hlines x ?_⟩
  rw [List.zipIdx_cons]
  exact List.mem_cons_of_mem _ hx

/-- The lines of a file stand in it. -/
theorem standIn_splitLines (htext : s.textOf? p = some text) :
    s.StandIn p 1 (Text.splitLines Text.isLineEnd text) :=
  ⟨text, htext, fun _ hx => hx⟩

/-! ## 2. Templates that can be followed to their end -/

/-- **A template that can be followed to its end**: it has a text, every file that it cites has
    one, and every template that it cites can be followed. -/
inductive Expandable (s : Setting) : Path → Prop where
  | intro {p : Path} (htext : (s.textOf? p).isSome = true)
      (hcited : ∀ q, s.Cites p q → (s.textOf? q).isSome = true)
      (hnested : ∀ q, s.CitesTemplate p q → Expandable s q) : Expandable s p

theorem Expandable.cited (h : s.Expandable p) (hcites : s.Cites p q) :
    (s.textOf? q).isSome = true := by
  cases h with
  | intro _ hcited _ => exact hcited q hcites

theorem Expandable.nested (h : s.Expandable p) (hcites : s.CitesTemplate p q) :
    s.Expandable q := by
  cases h with
  | intro _ _ hnested => exact hnested q hcites

theorem Expandable.reached (h : s.Expandable p) (hreaches : s.Reaches p q) : s.Expandable q := by
  induction hreaches with
  | refl => exact h
  | tail _ hcites ih => exact ih.nested hcites

/-- **A template that can be followed to its end does not cite itself** through any others. -/
theorem Expandable.not_cyclic (h : s.Expandable p) :
    ¬ Relation.TransGen s.CitesTemplate p p := by
  induction h with
  | intro _ _ _ ih =>
      intro hcycle
      obtain ⟨q, hfirst, hback⟩ := Relation.TransGen.head'_iff.mp hcycle
      -- the circle may as well be begun one template further on
      exact ih q hfirst (Relation.TransGen.tail' hback hfirst)

/-- What a file's lines cite, read off the lines. -/
theorem expandable_of_lines (htext : s.textOf? p = some text)
    (hlines : ∀ line ∈ Text.splitLines Text.isLineEnd text, ∀ d, s.directive? line = some d →
      (d.citesFile = true → (s.textOf? (d.includee p)).isSome = true) ∧
      (d.isRecursive = true → s.Expandable (d.includee p))) : s.Expandable p := by
  have hat : ∀ n d, s.DirectiveAt p n d →
      (d.citesFile = true → (s.textOf? (d.includee p)).isSome = true) ∧
      (d.isRecursive = true → s.Expandable (d.includee p)) := by
    intro n d h
    obtain ⟨text', line, htext', hmem, hline⟩ := h
    cases htext.symm.trans htext'
    exact hlines line (List.fst_mem_of_mem_zipIdx hmem) d hline
  refine .intro (by simp [htext]) ?_ ?_
  · intro q h
    obtain ⟨n, d, h, hcites, rfl⟩ := h
    exact (hat n d h).1 hcites
  · intro q h
    obtain ⟨n, d, h, hrec, rfl⟩ := h
    exact (hat n d h).2 hrec

/-- **What a run that succeeds says about its lines**: every file they cite has a text, and every
    template they cite can be followed to its end. -/
theorem Expands.expandable (h : Expands s stack template depth number lines r)
    (hok : r.failure = none) :
    ∀ line ∈ lines, ∀ d, s.directive? line = some d →
      (d.citesFile = true → (s.textOf? (d.includee template)).isSome = true) ∧
      (d.isRecursive = true → s.Expandable (d.includee template)) := by
  induction h, hok using Expands.ok_induction with
  | done => simp
  | copied hline _ _ ih =>
      rw [directive?_lineAt] at hline
      refine List.forall_mem_cons.mpr ⟨fun d hd => ?_, ih⟩
      cases hline.symm.trans hd
  | marked hline hcites _ _ ih =>
      rw [directive?_lineAt] at hline
      refine List.forall_mem_cons.mpr ⟨fun d hd => ?_, ih⟩
      cases hline.symm.trans hd
      exact ⟨fun h => by simp [hcites] at h,
        fun h => by simp [citesFile_of_isRecursive h] at hcites⟩
  | quoted hline _ hrec hopen htext _ _ ih =>
      rw [directive?_lineAt] at hline
      refine List.forall_mem_cons.mpr ⟨fun d hd => ?_, ih⟩
      cases hline.symm.trans hd
      have hcontent := textOf?_eq_some_iff.mpr ⟨_, hopen, htext⟩
      exact ⟨fun _ => by simp [hcontent], fun h => by simp [hrec] at h⟩
  | nested hline _ _ hopen _ _ hcomplete _ _ ihBody ihRest =>
      rw [directive?_lineAt] at hline
      refine List.forall_mem_cons.mpr ⟨fun d hd => ?_, ihRest⟩
      cases hline.symm.trans hd
      obtain ⟨text, htext, heq⟩ := lines_of_complete hopen hcomplete
      refine ⟨fun _ => by simp [htext], fun _ => expandable_of_lines htext ?_⟩
      rwa [heq] at ihBody

/-! ## 3. When a run succeeds -/

/-- **The files decide whether a run succeeds.** Let a chain of templates lead from `first` to the
    one being read, and from every template on the stack. The run is not stopped if what the
    templates of such chains cite has a text and none of them cites itself through others. -/
theorem Expands.succeeds {first : Path} (h : Expands s stack template depth number lines r)
    (hcited : ∀ p q, s.Reaches first p → s.Cites p q → (s.textOf? q).isSome = true)
    (hacyclic : ∀ p, s.Reaches first p → ¬ Relation.TransGen s.CitesTemplate p p)
    (hlines : s.StandIn template number lines) (hfirst : s.Reaches first template)
    (hstack : ∀ f ∈ stack, s.Reaches f.template template) : r.failure = none := by
  induction h with
  | done => rfl
  | copied _ _ ih => exact ih hlines.tail hfirst hstack
  | marked _ _ _ ih => exact ih hlines.tail hfirst hstack
  | quoted _ _ _ _ _ _ ih => exact ih hlines.tail hfirst hstack
  | nested _ _ _ _ _ _ _ _ _ ihRest => exact ihRest hlines.tail hfirst hstack
  | @cyclic _ template _ _ _ _ d hline hrec hfound =>
      have hcites : s.CitesTemplate template (d.includee template) :=
        ⟨_, d, hlines.directiveAt hline, hrec, rfl⟩
      obtain ⟨f, hf, htemplate⟩ := Stack.find?_isSome_iff.mp hfound
      have hback : s.Reaches f.template template := by
        rcases List.mem_append.mp hf with hf | hf
        · exact hstack f hf
        · rw [List.mem_singleton.mp hf]
          exact .refl
      rw [htemplate] at hback
      exact absurd (Relation.TransGen.head' hcites hback) (hacyclic template hfirst)
  | @unopened _ template _ _ _ _ d e hline hcites _ hopen =>
      obtain ⟨source, text, hopen', -, -⟩ := opened_of_text
        (hcited template _ hfirst ⟨_, d, hlines.directiveAt hline, hcites, rfl⟩)
      rw [openSource_ok_iff.mpr hopen'] at hopen
      cases hopen
  | @undecodable _ template _ _ _ _ d source hline hcites _ hopen htext =>
      obtain ⟨source', text, hopen', htext', -⟩ := opened_of_text
        (hcited template _ hfirst ⟨_, d, hlines.directiveAt hline, hcites, rfl⟩)
      cases hopen.symm.trans hopen'
      cases htext.symm.trans htext'
  | @broken _ template _ _ _ _ d source body e hline hrec _ hopen _ hfail ih =>
      have hcites : s.CitesTemplate template (d.includee template) :=
        ⟨_, d, hlines.directiveAt hline, hrec, rfl⟩
      obtain ⟨source', -, hopen', -, hcomplete⟩ := opened_of_text
        (hcited template _ hfirst hcites.cites)
      cases hopen.symm.trans hopen'
      obtain ⟨text, htext, heq⟩ := lines_of_complete hopen hcomplete
      have hok := ih (heq ▸ standIn_splitLines htext) (hfirst.tail hcites) fun f hf => by
        rcases List.mem_append.mp hf with hf | hf
        · exact (hstack f hf).tail hcites
        · rw [List.mem_singleton.mp hf]
          exact .single hcites
      rw [Source.close_ok_iff.mpr ⟨hok, hcomplete⟩] at hfail
      cases hfail

/-- **A template expands exactly if its citations are in order**: it has a text, every file that
    is cited in a template reached from it has one, and none of these templates cites itself
    through others. -/
theorem expand_ok_iff {output : Option Path} :
    (s.expand template output).failure = none ↔
      (s.textOf? template).isSome = true ∧
      (∀ p q, s.Reaches template p → s.Cites p q → (s.textOf? q).isSome = true) ∧
      ∀ p, s.Reaches template p → ¬ Relation.TransGen s.CitesTemplate p p := by
  constructor
  · intro hok
    obtain ⟨text, body, htext, hbody, hokBody, -⟩ := expand_ok hok
    have hexpandable := expandable_of_lines htext (hbody.expandable hokBody)
    exact ⟨by simp [htext], fun p q hp hcites => (hexpandable.reached hp).cited hcites,
      fun p hp => (hexpandable.reached hp).not_cyclic⟩
  · intro h
    obtain ⟨hsome, hcited, hacyclic⟩ := h
    obtain ⟨source, -, hopen, -, hcomplete⟩ := opened_of_text hsome
    obtain ⟨text, htext, heq⟩ := lines_of_complete hopen hcomplete
    have hrun := runOf_expand s template output
    generalize s.expand template output = run at hrun
    cases hrun with
    | unopened hopen' =>
        rw [openSource_ok_iff.mpr hopen] at hopen'
        cases hopen'
    | opened hopen' hbody =>
        cases hopen.symm.trans hopen'
        refine Source.close_ok_iff.mpr ⟨?_, hcomplete⟩
        refine hbody.succeeds hcited hacyclic (heq ▸ standIn_splitLines htext) .refl fun f hf => ?_
        rw [List.mem_singleton.mp hf]
        exact .refl

end Setting

end MarkdownTemplate
