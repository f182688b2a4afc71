import IdlLint.Proofs.AnnotationEdit
import IdlLint.Proofs.CheckIndependence

/-! What an annotation that silences rules does to a walk. It takes away what the rules that it names
find at its node and below, and nothing else. The walk through the document with the annotation goes
along with the walk through the document without it, but for one more visit, of the annotation. -/
namespace IdlLint

open IdlLint.Config
open IdlLint.Schema

namespace Suppression

/-- Whether an annotation names a rule: it lists the rule or one that the rule refines, or nothing. -/
def Names (value rule : String) : Prop :=
  let listed := ((List.splitOn ',' value.toList).map Text.trim).filter fun part => !part.isEmpty
  listed = [] ∨ ∃ entry ∈ listed, rule.toList = entry ∨ entry ++ ['.'] <+: rule.toList

instance (value rule : String) : Decidable (Names value rule) :=
  inferInstanceAs (Decidable (_ ∨ _))

private theorem silences_ofList {entry : List Char} (nonempty : entry ≠ []) (rule : String) :
    silences (String.ofList entry) rule = true ↔
      rule.toList = entry ∨ entry ++ ['.'] <+: rule.toList := by
  have named : (String.ofList entry == everyRule) = false := by
    simpa [everyRule] using nonempty
  have same : rule = String.ofList entry ↔ rule.toList = entry := by
    rw [← String.toList_inj, String.toList_ofList]
  rw [silences, named, Bool.false_or, Text.refines, Bool.or_eq_true, beq_iff_eq, same,
    String.toList_ofList, List.isPrefixOf_iff_prefix]

private theorem isSuppressed_entries (value : String) (position : Position) (rule : String) :
    isSuppressed rule (entries ⟨annotationName, value, position⟩) = decide (Names value rule) := by
  apply Bool.eq_iff_iff.mpr
  rw [decide_eq_true_iff]
  unfold Names entries
  dsimp only
  rw [if_pos rfl]
  generalize parsed : List.filter _ _ = listed
  by_cases none : listed = []
  · simp [none, isSuppressed, silences]
  · have nonempty : ∀ entry ∈ listed, entry ≠ [] := by
      intro entry member
      rw [← parsed] at member
      simpa using (List.mem_filter.mp member).2
    rw [if_neg (by simpa using none), isSuppressed, List.any_map, List.any_eq_true]
    simp only [none, false_or]
    exact exists_congr fun entry => and_congr_right fun member =>
      silences_ofList (nonempty entry member) rule

/-- Whether a rule is silenced by the annotations of some nodes. -/
def isHushed (rule : String) (owners : List Node) : Bool :=
  isSuppressed rule (collect (owners.map Node.annotations))

private theorem isHushed_append (rule : String) (a b : List Node) :
    isHushed rule (a ++ b) = (isHushed rule a || isHushed rule b) := by
  simp only [isHushed, isSuppressed, collect, List.map_append, List.flatten_append,
    List.flatMap_append, List.any_append]

private theorem isHushed_singleton (rule : String) (node : Node) :
    isHushed rule [node] = node.annotations.any fun note => isSuppressed rule (entries note) := by
  simp only [isHushed, isSuppressed, collect, List.map_cons, List.map_nil, List.flatten_cons,
    List.flatten_nil, List.append_nil, List.any_flatMap]

end Suppression

namespace Schema

open Suppression

/-- Puts a further annotation among those of a node. -/
def addNote (index : Nat) (note : Note) (annotations : List Note) : List Note :=
  annotations.take index ++ note :: annotations.drop index

private theorem isHushed_addNote {index : Nat} {note : Note} {a b : Node}
    (added : b.annotations = addNote index note a.annotations) (rule : String) :
    isHushed rule [b] = (isHushed rule [a] || isSuppressed rule (entries note)) := by
  rw [isHushed_singleton, isHushed_singleton, added, addNote, List.any_append, List.any_cons]
  conv => rhs; rw [← List.take_append_drop index a.annotations, List.any_append]
  rw [Bool.or_comm (isSuppressed rule (entries note)), Bool.or_assoc]

/-- Visits of one node in two documents that differ in annotations. Inside the part that is looked at
more rules are silenced in the second document. -/
structure Visit.Matches (silenced : String → Bool) (inside : Bool) (old new : Visit) : Prop where
  bare : new.node.bare = old.node.bare
  hushed : ∀ rule, isHushed rule (new.parents ++ [new.node]) =
    (isHushed rule (old.parents ++ [old.node]) || inside && silenced rule)
  inner : inside = true → old.node.isInner = true

/-- Two walks that go along with each other, but for visits of annotations in the second. -/
inductive Aligned (silenced : String → Bool) (target : List Nat) : List Place → List Visit → Prop
  | nil : Aligned silenced target [] []
  | visit {old : Place} {new : Visit} {olds : List Place} {news : List Visit}
    (matched : old.visit.Matches silenced (decide (target <+: old.address)) new)
    (rest : Aligned silenced target olds news) : Aligned silenced target (old :: olds) (new :: news)
  | note {new : Visit} {olds : List Place} {news : List Visit} (kind : new.node.kind = .note)
    (rest : Aligned silenced target olds news) : Aligned silenced target olds (new :: news)

namespace Aligned

variable {silenced : String → Bool} {target : List Nat}

private theorem append {a c : List Place} {b d : List Visit} (first : Aligned silenced target a b)
    (second : Aligned silenced target c d) : Aligned silenced target (a ++ c) (b ++ d) := by
  induction first with
  | nil => exact second
  | visit matched _ ih => exact .visit matched ih
  | note kind _ ih => exact .note kind ih

private theorem children {address : List Nat} {old new : List Node} {nodes : List (Node × Nat)}
    {change : Node × Nat → Node}
    (each : ∀ child ∈ nodes, Aligned silenced target
      (Place.below ⟨address ++ [child.2], child.1, old⟩) (Visit.below ⟨change child, new⟩)) :
    Aligned silenced target
      ((nodes.map fun child => ⟨address ++ [child.2], child.1, old⟩).flatMap Place.below)
      (((nodes.map change).map fun child => ⟨child, new⟩).flatMap Visit.below) := by
  induction nodes with
  | nil => exact .nil
  | cons child rest ih =>
    exact (each child (List.mem_cons_self ..)).append
      (ih fun other member => each other (List.mem_cons_of_mem _ member))

/-- A node and all that is below it, if its children in the second document are those in the first
after some change. -/
theorem subtree {address : List Nat} {node other : Node} {old new : List Node}
    {change : Node × Nat → Node} (changed : other.children = node.children.zipIdx.map change)
    (matched : Visit.Matches silenced (decide (target <+: address)) ⟨node, old⟩ ⟨other, new⟩)
    (each : ∀ child ∈ node.children.zipIdx, Aligned silenced target
      (Place.below ⟨address ++ [child.2], child.1, old ++ [node]⟩)
      (Visit.below ⟨change child, new ++ [other]⟩)) :
    Aligned silenced target (Place.below ⟨address, node, old⟩) (Visit.below ⟨other, new⟩) := by
  rw [Place.below_eq, Visit.below_eq, Place.descend_eq, Visit.descend, changed]
  exact .visit matched (.children each)

/-- A subtree that is the same in both documents, all of it inside the part or all of it outside. -/
theorem unchanged {inside : Bool} (node : Node) {address : List Nat} {old new : List Node}
    (within : ∀ more, decide (target <+: address ++ more) = inside)
    (parents : ∀ rule, isHushed rule new = (isHushed rule old || inside && silenced rule))
    (inner : inside = true → node.isInner = true) :
    Aligned silenced target (Place.below ⟨address, node, old⟩) (Visit.below ⟨node, new⟩) := by
  induction size : node.size using Nat.strongRecOn generalizing node address old new with
  | ind n ih =>
    have hushed (rule : String) : isHushed rule (new ++ [node]) =
        (isHushed rule (old ++ [node]) || inside && silenced rule) := by
      rw [isHushed_append, isHushed_append, parents, Bool.or_right_comm]
    have here : decide (target <+: address) = inside := by
      simpa using within []
    refine subtree (List.zipIdx_map_fst 0 node.children).symm ⟨rfl, ?_, ?_⟩ ?_
    · rwa [here]
    · rwa [here]
    · intro child listed
      have member := List.fst_mem_of_mem_zipIdx listed
      refine ih child.1.size (size ▸ Node.size_lt_of_mem member) child.1 ?_ hushed ?_ rfl
      · intro more
        rw [List.append_assoc]
        exact within _
      · exact fun deep => Node.isInner_children node (inner deep) child.1 member

/-- Nodes next to each other whose subtrees are the same in both documents. -/
theorem siblings {inside : Bool} (nodes : List Node) (start : Nat) {address : List Nat}
    {old new : List Node} (within : ∀ more, decide (target <+: address ++ more) = inside)
    (parents : ∀ rule, isHushed rule new = (isHushed rule old || inside && silenced rule))
    (inner : inside = true → ∀ child ∈ nodes, child.isInner = true) :
    Aligned silenced target
      (((nodes.zipIdx start).map fun child => ⟨address ++ [child.2], child.1, old⟩).flatMap
        Place.below)
      ((nodes.map fun child => ⟨child, new⟩).flatMap Visit.below) := by
  have each : ∀ child ∈ nodes.zipIdx start, Aligned silenced target
      (Place.below ⟨address ++ [child.2], child.1, old⟩) (Visit.below ⟨child.1, new⟩) := by
    intro child listed
    refine unchanged child.1 ?_ parents ?_
    · intro more
      rw [List.append_assoc]
      exact within _
    · exact fun deep => inner deep child.1 (List.fst_mem_of_mem_zipIdx listed)
  have all := children each
  rwa [List.zipIdx_map_fst] at all

/-- The node that is given an annotation, and all below it. The new annotation stands between the
children before it and those after it. -/
theorem annotated {note : Note} (index : Nat) {address : List Nat} {node : Node}
    {old new : List Node} (carrier : node.isCarrier = true)
    (parents : ∀ rule, isHushed rule new = isHushed rule old) :
    Aligned (fun rule => isSuppressed rule (entries note)) address
      (Place.below ⟨address, node, old⟩)
      (Visit.below ⟨node.edit (addNote index note) [], new⟩) := by
  obtain ⟨parts, before, after, added⟩ := Node.edit_nil (addNote index note) carrier
  have hushed (rule : String) : isHushed rule (new ++ [node.edit (addNote index note) []]) =
      (isHushed rule (old ++ [node]) || true && isSuppressed rule (entries note)) := by
    rw [isHushed_append, isHushed_append, parents, isHushed_addNote added, Bool.true_and,
      Bool.or_assoc]
  have within (more : List Nat) : decide (address <+: address ++ more) = true := by
    simp
  have inner := Node.isInner_of_isCarrier carrier
  let front := parts ++ (node.annotations.take index).map Node.note
  let back := (node.annotations.drop index).map Node.note
  have children : node.children = front ++ back := by
    rw [before, List.append_assoc, ← List.map_append, List.take_append_drop]
  have others : (node.edit (addNote index note) []).children = front ++ .note note :: back := by
    rw [after, addNote, List.map_append, List.map_cons, List.append_assoc]
  have below := Node.isInner_children node inner
  rw [children] at below
  rw [Place.below_eq, Visit.below_eq, Place.descend_eq, Visit.descend, children, others,
    List.zipIdx_append, List.map_append, List.flatMap_append, List.map_append, List.flatMap_append]
  refine .visit ⟨Node.bare_edit .., ?_, fun _ => inner⟩ (.append ?_ (.note rfl ?_))
  · simpa using hushed
  · exact siblings front 0 within hushed fun _ child member =>
      below child (List.mem_append_left _ member)
  · exact siblings back _ within hushed fun _ child member =>
      below child (List.mem_append_right _ member)

/-- The walk through a document goes along with the walk through the document after a node has been
given an annotation. -/
theorem edit {note : Note} (index : Nat) {address rest : List Nat} {node owner : Node}
    {old new : List Node} (found : node.at? rest = some owner) (carrier : owner.isCarrier = true)
    (parents : ∀ rule, isHushed rule new = isHushed rule old) :
    Aligned (fun rule => isSuppressed rule (entries note)) (address ++ rest)
      (Place.below ⟨address, node, old⟩)
      (Visit.below ⟨node.edit (addNote index note) rest, new⟩) := by
  induction rest generalizing node address old new with
  | nil =>
    obtain rfl : node = owner := Option.some.inj found
    rw [List.append_nil]
    exact annotated index carrier parents
  | cons i rest ih =>
    have outside : decide (address ++ i :: rest <+: address) = false := by
      apply decide_eq_false
      intro inside
      simpa using inside.length_le
    have hushed (rule : String) :
        isHushed rule (new ++ [node.edit (addNote index note) (i :: rest)]) =
          isHushed rule (old ++ [node]) := by
      rw [isHushed_append, isHushed_append, parents,
        isHushed_singleton, isHushed_singleton, Node.annotations_edit]
    refine subtree (Node.children_edit _ i rest node) ?_ ?_
    · rw [outside]
      exact ⟨Node.bare_edit .., by simpa using hushed, by simp⟩
    · intro child listed
      split
      · rename_i same
        have inside := List.mem_zipIdx_iff_getElem?.mp listed
        rw [← same] at inside
        rw [Node.at?, inside, Option.bind_some] at found
        rw [← same, List.append_cons]
        exact ih found hushed
      · rename_i other
        have apart (more : List Nat) :
            decide (address ++ i :: rest <+: address ++ [child.2] ++ more) = false := by
          apply decide_eq_false
          rw [List.append_assoc, List.prefix_append_right_inj]
          simp [other]
        exact unchanged child.1 apart (by simpa using hushed) (by simp)

private theorem document {d : Document} {address : List Nat} {node : Node}
    (found : (Node.document d).at? address = some node) (carrier : node.isCarrier = true)
    (note : Note) (index : Nat) :
    Aligned (fun rule => isSuppressed rule (entries note)) address (places (.document d))
      (walk (.document (d.edit (addNote index note) address))) := by
  have whole : Aligned (fun rule => isSuppressed rule (entries note)) ([] ++ address)
      (Place.below ⟨[], .document d, []⟩)
      (Visit.below ⟨Node.edit (addNote index note) address (.document d), []⟩) :=
    edit index found carrier fun _ => rfl
  exact whole

end Aligned

end Schema

namespace Findings

/-- What is left of findings if some rules are silenced inside a part. -/
def lessen (silenced : String → Bool) (inside : Bool) (found : Findings) : Findings :=
  if inside then found.restrict fun rule => !silenced rule else found

private theorem lessen_append (silenced : String → Bool) (inside : Bool) (a b : Findings) :
    (a ++ b).lessen silenced inside = a.lessen silenced inside ++ b.lessen silenced inside := by
  cases inside with
  | true => exact restrict_append (fun rule => !silenced rule) a b
  | false => rfl

end Findings

namespace Check

variable {σ : Type} {check : Check σ} {file other : FileContext}

namespace Blind

private theorem meetTimes (blind : check.Blind) (file : FileContext) (parents : List Node)
    (node : Node) (n : Nat) : (check.meetTimes file parents node n).1.Blind ∧
      check.meetTimes file.bare [] node.bare n = check.meetTimes file parents node n := by
  induction n generalizing check with
  | zero => exact ⟨blind, rfl⟩
  | succ n ih =>
    obtain ⟨still, same⟩ := blind.meet file parents node
    obtain ⟨last, more⟩ := ih still
    exact ⟨last, by simp only [Check.meetTimes, same, more]⟩

private theorem offer (blind : check.Blind) (file : FileContext) (parents : List Node) (node : Node) :
    (check.offer file parents node).1.Blind := by
  unfold Check.offer
  split
  · exact blind
  · exact (blind.meetTimes file parents node _).1

private theorem note_notMem (blind : check.Blind) : .note ∉ check.kinds := by
  cases blind with
  | node _ notes => exact notes
  | run _ outer => exact outer (.note default) rfl

/-- In or below a definition no check learns anything. -/
theorem offer_inner (blind : check.Blind) (file : FileContext) (parents : List Node) {node : Node}
    (inner : node.isInner = true) : (check.offer file parents node).1 = check := by
  cases blind with
  | node _ _ => exact offer_node ..
  | run _ outer => rw [offer_of_notMem file parents (outer node inner)]

/-- At visits that match a check does the same, but for what is silenced. -/
theorem offer_matches (blind : check.Blind) (own : check.Own) (files : other.bare = file.bare)
    {silenced : String → Bool} {inside : Bool} {old new : Visit}
    (matched : old.Matches silenced inside new) :
    check.offer other new.parents new.node =
      ((check.offer file old.parents old.node).1,
        (check.offer file old.parents old.node).2.lessen silenced inside) := by
  have kinds : new.node.kind = old.node.kind := by
    rw [← Node.kind_bare, matched.bare, Node.kind_bare]
  have same (n : Nat) : check.meetTimes other new.parents new.node n =
      check.meetTimes file old.parents old.node n := by
    rw [← (blind.meetTimes other new.parents new.node n).2, files, matched.bare,
      (blind.meetTimes file old.parents old.node n).2]
  have under := (own.offer file old.parents old.node).under
  have hushed : Suppression.isSuppressed check.ruleId (Suppression.ofNode new.node new.parents) =
      (Suppression.isSuppressed check.ruleId (Suppression.ofNode old.node old.parents) ||
        inside && silenced check.ruleId) := matched.hushed check.ruleId
  rw [Check.offer, hushed]
  cases before : Suppression.isSuppressed check.ruleId
      (Suppression.ofNode old.node old.parents) with
  | true =>
    have skipped : check.offer file old.parents old.node = (check, {}) := by
      rw [Check.offer, if_pos before]
    rw [Bool.true_or, if_pos rfl, skipped]
    cases inside <;> rfl
  | false =>
    have shown : check.offer file old.parents old.node =
        check.meetTimes file old.parents old.node (check.interest old.node.kind) := by
      rw [Check.offer, if_neg (by simp [before])]
    rw [Bool.false_or]
    cases inside with
    | false => rw [Bool.false_and, if_neg Bool.false_ne_true, same, kinds, shown]; rfl
    | true =>
      rw [Bool.true_and, Findings.lessen, if_pos rfl]
      cases hush : silenced check.ruleId with
      | true =>
        rw [if_pos rfl, blind.offer_inner file old.parents (matched.inner rfl),
          Findings.restrict_of_not_keep under (by simp [hush])]
      | false =>
        rw [if_neg Bool.false_ne_true, Findings.restrict_of_keep under (by simp [hush]), same,
          kinds, shown]

end Blind

end Check

namespace Checks

variable {σ : Type} {file other : FileContext}

private theorem dispatch_blind (file : FileContext) (visit : Visit) {checks : List (Check σ)}
    (blind : ∀ check ∈ checks, check.Blind) :
    ∀ check ∈ (dispatch file visit checks).1, check.Blind := by
  rw [dispatch_fst]
  intro next member
  obtain ⟨check, inside, rfl⟩ := List.mem_map.mp member
  exact (blind check inside).offer file visit.parents visit.node

private theorem dispatch_matches (files : other.bare = file.bare) {silenced : String → Bool}
    {inside : Bool} {old new : Visit} (matched : old.Matches silenced inside new)
    {checks : List (Check σ)}
    (blind : ∀ check ∈ checks, check.Blind) (own : ∀ check ∈ checks, check.Own) :
    dispatch other new checks = ((dispatch file old checks).1,
      (dispatch file old checks).2.lessen silenced inside) := by
  induction checks with
  | nil => cases inside <;> rfl
  | cons check rest ih =>
    have first := (blind check (List.mem_cons_self ..)).offer_matches
      (own check (List.mem_cons_self ..)) files matched
    have more := ih (fun next member => blind next (List.mem_cons_of_mem _ member))
      (fun next member => own next (List.mem_cons_of_mem _ member))
    simp only [dispatch, first, more, Findings.lessen_append]

private theorem dispatch_note {visit : Visit} (note : visit.node.kind = .note)
    {checks : List (Check σ)} (blind : ∀ check ∈ checks, check.Blind) :
    dispatch file visit checks = (checks, {}) := by
  induction checks with
  | nil => rfl
  | cons check rest ih =>
    have none : visit.node.kind ∉ check.kinds := by
      rw [note]
      exact (blind check (List.mem_cons_self ..)).note_notMem
    simp only [dispatch, Check.offer_of_notMem file visit.parents none,
      ih fun next member => blind next (List.mem_cons_of_mem _ member)]
    rfl

/-- What checks find at each of some places. -/
def foundAt (file : FileContext) (places : List Place) (checks : List (Check σ)) :
    List (Place × Findings) :=
  places.zip ((dispatchAll file (places.map Place.visit) checks).2.map Prod.snd)

/-- All that was found, in its order. -/
def gathered (found : List Findings) : Findings :=
  found.foldr Findings.append {}

private theorem dispatchAll_aligned (files : other.bare = file.bare) {silenced : String → Bool}
    {target : List Nat} {olds : List Place} {news : List Visit}
    (aligned : Aligned silenced target olds news) {checks : List (Check σ)}
    (blind : ∀ check ∈ checks, check.Blind) (own : ∀ check ∈ checks, check.Own) :
    (dispatchAll other news checks).1 = (dispatchAll file (olds.map Place.visit) checks).1 ∧
      gathered ((dispatchAll other news checks).2.map Prod.snd) =
        gathered ((foundAt file olds checks).map fun found =>
          found.2.lessen silenced (decide (target <+: found.1.address))) := by
  induction aligned generalizing checks with
  | nil => exact ⟨rfl, rfl⟩
  | @visit old new olds news matched _ ih =>
    have here := dispatch_matches files matched blind own
    obtain ⟨last, more⟩ :=
      ih (dispatch_blind file old.visit blind) (dispatch_own file old.visit own)
    simp only [dispatchAll, here]
    exact ⟨last, congrArg (Findings.append _) more⟩
  | @note new olds news kind _ ih =>
    obtain ⟨last, more⟩ := ih blind own
    simp only [dispatchAll, dispatch_note kind blind]
    exact ⟨last, more⟩

private theorem foundAt_findings (places : List Place) (checks : List (Check σ)) :
    (foundAt file places checks).map Prod.snd =
      (dispatchAll file (places.map Place.visit) checks).2.map Prod.snd := by
  induction places generalizing checks with
  | nil => rfl
  | cons place rest ih => exact congrArg (List.cons _) (ih (dispatch file place.visit checks).1)

end Checks

namespace Rules

/-- A check of the linter, which may have seen other files before. -/
def IsBuiltIn (settings : Settings) (check : Check ImportGraph) : Prop :=
  check ∈ all settings ∨
    ∃ graph phase, check = .run { ImportGraph.watcher with memory := graph, phase := phase }

private theorem IsBuiltIn.blind {settings : Settings} {check : Check ImportGraph}
    (builtIn : IsBuiltIn settings check) : check.Blind := by
  rcases builtIn with listed | ⟨graph, phase, rfl⟩
  · exact blind_all settings check listed
  · exact blind_watcher graph phase

private theorem IsBuiltIn.own {settings : Settings} {check : Check ImportGraph}
    (builtIn : IsBuiltIn settings check) : check.Own := by
  rcases builtIn with listed | ⟨graph, phase, rfl⟩
  · exact own_all settings check listed
  · exact fun g found written => ImportGraph.finalize_rule g written

end Rules

/-- A further annotation that silences rules takes away what the rules that it names find at its node
and below it, and nothing else. -/
theorem walk_addNote (settings : Settings) (file : FileContext) {checks : List (Check ImportGraph)}
    (builtIn : ∀ check ∈ checks, Rules.IsBuiltIn settings check) {address : List Nat} {node : Node}
    (located : (Node.document file.document).at? address = some node)
    (carrier : node.isCarrier = true) (value : String) (position : Position) (index : Nat) :
    let note : Note := ⟨Suppression.annotationName, value, position⟩
    let document := file.document.edit (addNote index note) address
    let before := Checks.walk file checks
    let after := Checks.walk { file with document := document } checks
    let found := Checks.foundAt file (places (.document file.document)) checks
    (∀ part ∈ found, (Node.document file.document).at? part.1.address = some part.1.node) ∧
      before.2 = Checks.gathered (found.map Prod.snd) ∧
      after.2 = Checks.gathered (found.map fun part =>
        if address <+: part.1.address then
          part.2.restrict fun rule => !decide (Suppression.Names value rule)
        else part.2) ∧
      after.1 = before.1 := by
  intro note document before after found
  have files : ({ file with document := document } : FileContext).bare = file.bare := by
    simp only [FileContext.bare, document, Document.bare_edit]
  have aligned := Aligned.document located carrier note index
  simp only [note, Suppression.isSuppressed_entries] at aligned
  obtain ⟨same, less⟩ := Checks.dispatchAll_aligned files aligned
    (fun check listed => (builtIn check listed).blind)
    (fun check listed => (builtIn check listed).own)
  rw [visits_places] at same
  refine ⟨?_, ?_, ?_, same⟩
  · intro part member
    exact at?_places (List.of_mem_zip member).1
  · rw [Checks.foundAt_findings, visits_places]
    rfl
  · simp only [Findings.lessen, decide_eq_true_eq] at less
    exact less

/-- `struct S { map<list<i32>, i32> a (nolint = "types"), -1: i32 b }` -/
def twoFields : Document where
  headers := []
  definitions := [.struct {
    name := "S"
    kind := .struct
    fields := [
      { name := "a"
        type := .map (.list (.base .i32 [] ⟨1, 21⟩) [] ⟨1, 16⟩) (.base .i32 [] ⟨1, 27⟩) [] ⟨1, 12⟩
        id := none
        requiredness := none
        default := none
        annotations := [⟨"nolint", "types", ⟨1, 35⟩⟩]
        position := ⟨1, 12⟩ },
      { name := "b"
        type := .base .i32 [] ⟨1, 60⟩
        id := some (-1)
        requiredness := none
        default := none
        annotations := []
        position := ⟨1, 56⟩ }]
    annotations := []
    position := ⟨1, 1⟩ }]

def twoFieldsFile : FileContext :=
  { (default : FileContext) with document := twoFields }

theorem walk_addNote_twoFields :
    (∀ check ∈ Rules.all {}, Rules.IsBuiltIn {} check) ∧
      (∃ node, (Node.document twoFieldsFile.document).at? [0, 0] = some node ∧
        node.isCarrier = true) ∧
      (Checks.walk twoFieldsFile (Rules.all {})).2.diagnostics.map Diagnostic.ruleId =
        ["field.id.missing", "map.key.type", "field.id.negative"] ∧
      (Checks.walk { twoFieldsFile with
          document := twoFieldsFile.document.edit
            (addNote 0 ⟨Suppression.annotationName, " field.id.missing,, map ", ⟨1, 35⟩⟩) [0, 0] }
        (Rules.all {})).2.diagnostics.map Diagnostic.ruleId = ["field.id.negative"] := by
  have builtIn : ∀ check ∈ Rules.all {}, Rules.IsBuiltIn {} check := fun _ => .inl
  obtain ⟨node, located, carrier⟩ :
      ∃ node, (Node.document twoFieldsFile.document).at? [0, 0] = some node ∧
        node.isCarrier = true := ⟨_, rfl, rfl⟩
  obtain ⟨_, before, after, _⟩ := walk_addNote {} twoFieldsFile builtIn located carrier
    " field.id.missing,, map " ⟨1, 35⟩ 0
  refine ⟨builtIn, ⟨node, located, carrier⟩, ?_, ?_⟩
  · rw [before]
    decide +kernel
  · rw [after]
    decide +kernel

end IdlLint
