import SchemaBinding.Proofs.WrittenDocuments

/-!
# Documents that are read

Every document that is read from a text is the expansion of a document as it is written.  Its names
are therefore those that prefixes, or their absence, stand for in the scopes where they are written.
While a document is read this holds of all the parts that have been read so far, and of the tags of
the elements that are open.
-/

namespace SchemaBinding
namespace Xml

/-! ## Parts -/

/-- Whether a tag can be written in the scope around its element. -/
def Tag.Writable (outer : Scope) (tag : Tag) : Prop :=
  ∃ written : WrittenTag, written.expand (outer.enter tag.declarations) = some tag

/-- Whether a part of a document can be written in a scope. -/
def Node.Writable (outer : Scope) (node : Node) : Prop :=
  ∃ written : WrittenNode, written.expand outer = some node

/-- Parts can be written one after the other if each can be written. -/
theorem exists_expandAll
    {outer : Scope}
    {nodes : List Node}
    (writable : ∀ node ∈ nodes, node.Writable outer) :
    ∃ written, WrittenNode.expandAll outer written = some nodes := by
  induction nodes with
  | nil => exact ⟨[], rfl⟩
  | cons node rest inductionHypothesis =>
      obtain ⟨⟨written, expands⟩, restWritable⟩ := List.forall_mem_cons.1 writable
      obtain ⟨others, othersExpand⟩ := inductionHypothesis restWritable
      exact ⟨written :: others,
        WrittenNode.expandAll_cons_eq_some_iff.2 ⟨node, rest, expands, othersExpand, rfl⟩⟩

/-- An element can be written around content that can be written in the scope inside it. -/
theorem Tag.Writable.element
    {outer : Scope}
    {tag : Tag}
    {children : List Node}
    (writable : tag.Writable outer)
    (inside : ∀ child ∈ children, child.Writable (outer.enter tag.declarations)) :
    (Node.element tag children).Writable outer := by
  obtain ⟨written, expands⟩ := writable
  obtain ⟨content, contentExpands⟩ := exists_expandAll inside
  obtain ⟨_, sameDeclarations, _⟩ := WrittenTag.expand_eq_some_iff.1 expands
  rw [← sameDeclarations] at expands contentExpands
  exact ⟨.element written content,
    WrittenNode.expand_element_eq_some_iff.2 ⟨tag, children, expands, contentExpands, rfl⟩⟩

/-- Outermost elements are the roots of documents. -/
theorem Node.Writable.exists_document
    {tag : Tag}
    {children : List Node}
    (writable : (Node.element tag children).Writable []) :
    ∃ written : WrittenDocument, written.expand = some ⟨tag, children⟩ := by
  obtain ⟨_ | _ | _ | _, expands⟩ := writable
  case element root content =>
    obtain ⟨_, _, rootExpands, contentExpands, same⟩ :=
      WrittenNode.expand_element_eq_some_iff.1 expands
    cases same
    exact ⟨⟨root, content⟩, WrittenDocument.expand_eq_some_iff.2 ⟨rootExpands, contentExpands⟩⟩
  all_goals
    rw [WrittenNode.expand] at expands
    cases expands

/-! ## Progress -/

/-- Whether open elements can be written, each inside the next one, with what they hold so far. -/
inductive WritableInside : List OpenElement → Prop
  /-- No element is open. -/
  | outermost : WritableInside []
  /-- The innermost element is inside the others. -/
  | inside {inner : OpenElement} {around : List OpenElement}
      (scope : inner.scope = (Progress.scope { pending := around }).enter inner.tag.declarations)
      (tag : inner.tag.Writable (Progress.scope { pending := around }))
      (children : ∀ child ∈ inner.children, child.Writable inner.scope)
      (writable : WritableInside around) : WritableInside (inner :: around)

/-- Whether everything that was read can be written. -/
structure Progress.Writable (progress : Progress) : Prop where
  /-- The elements whose ends have not been read. -/
  pending : WritableInside progress.pending
  /-- What is outside all elements. -/
  outside : ∀ node ∈ progress.outside, node.Writable []

namespace Progress.Writable

variable {progress next : Progress}

/-- All stays writable when the content at the place that has been reached is extended by what can be
written there. -/
theorem change
    (writable : progress.Writable)
    {extend : List Node → List Node}
    (extended : ∀ nodes, (∀ node ∈ nodes, node.Writable progress.scope) →
      ∀ node ∈ extend nodes, node.Writable progress.scope) :
    (progress.change extend).Writable := by
  obtain ⟨pending, outside, loose, counted⟩ := progress
  cases writable.pending with
  | outermost => exact ⟨.outermost, extended _ writable.outside⟩
  | inside scope tag children around =>
      exact ⟨.inside scope tag (extended _ children) around, writable.outside⟩

theorem add
    (writable : progress.Writable)
    {node : Node}
    (nodeWritable : node.Writable progress.scope) :
    (progress.add node).Writable :=
  writable.change fun _ nodes => List.forall_mem_cons.2 ⟨nodeWritable, nodes⟩

theorem addText
    (writable : progress.Writable)
    (characters : List Char) :
    (progress.addText characters).Writable := by
  refine writable.change fun nodes nodesWritable => ?_
  have text : ∀ found, (Node.text found).Writable progress.scope := fun found => ⟨.text found, rfl⟩
  unfold extendText
  split
  · exact List.forall_mem_cons.2 ⟨text _, (List.forall_mem_cons.1 nodesWritable).2⟩
  · exact List.forall_mem_cons.2 ⟨text _, nodesWritable⟩

end Progress.Writable

/-- The tag of an element is expanded as it is written. -/
theorem beginElement_eq
    (entities : Entities)
    (levels : Nat)
    (progress : Progress)
    (written : WrittenName)
    (attributes : List WrittenAttribute)
    {ending : TagEnd}
    (whole : ending ≠ .broken) :
    beginElement entities levels progress written attributes ending = do
      let (sorted, counted) ←
        sortAttributes entities levels progress.loose progress.counted attributes
      let scope := progress.scope.enter sorted.declarations
      let tag ← WrittenTag.expand scope ⟨written, sorted.declarations, sorted.others⟩
      let progress := { progress with loose := {}, counted }
      if ending = .empty then return progress.add (.element tag [])
      else return { progress with pending := ⟨written, tag, scope, []⟩ :: progress.pending } := by
  unfold beginElement
  refine bind_congr fun (sorted, counted) => ?_
  dsimp only
  rw [if_neg whole]
  unfold WrittenTag.expand
  simp only [bind_assoc, pure_bind]

namespace Progress.Writable

variable {progress next : Progress}

theorem beginElement
    (writable : progress.Writable)
    {entities : Entities}
    {levels : Nat}
    {name : WrittenName}
    {attributes : List WrittenAttribute}
    {ending : TagEnd}
    (begun : Xml.beginElement entities levels progress name attributes ending = some next) :
    next.Writable := by
  by_cases broken : ending = .broken
  · unfold Xml.beginElement at begun
    obtain ⟨⟨sorted, counted⟩, _, begun⟩ := Option.bind_eq_some_iff.1 begun
    dsimp only at begun
    rw [if_pos broken] at begun
    split at begun
    · cases begun
    · cases begun
      exact ⟨writable.pending, writable.outside⟩
  · rw [beginElement_eq entities levels progress name attributes broken] at begun
    obtain ⟨⟨sorted, counted⟩, _, begun⟩ := Option.bind_eq_some_iff.1 begun
    obtain ⟨tag, expands, begun⟩ := Option.bind_eq_some_iff.1 begun
    obtain ⟨_, sameDeclarations, _⟩ := WrittenTag.expand_eq_some_iff.1 expands
    dsimp only at sameDeclarations begun
    have tagWritable : tag.Writable progress.scope := ⟨_, sameDeclarations ▸ expands⟩
    split at begun
    · cases begun
      have before : Progress.Writable { progress with loose := {}, counted } :=
        ⟨writable.pending, writable.outside⟩
      exact before.add (tagWritable.element nofun)
    · cases begun
      exact ⟨.inside (congrArg progress.scope.enter sameDeclarations) tagWritable nofun writable.pending,
        writable.outside⟩

theorem endElement
    (writable : progress.Writable)
    {name : WrittenName}
    (ended : Xml.endElement progress name = some next) :
    next.Writable := by
  obtain ⟨pending, outside, loose, counted⟩ := progress
  unfold Xml.endElement at ended
  obtain ⟨_, _, ended⟩ := Option.bind_eq_some_iff.1 ended
  cases writable.pending with
  | outermost => cases ended
  | @inside inner around scope tag children aroundWritable =>
      dsimp only at ended
      split at ended
      · cases ended
        have before : Progress.Writable { pending := around, outside, counted } :=
          ⟨aroundWritable, writable.outside⟩
        refine before.add (tag.element ?_)
        intro child member
        exact scope ▸ children child (List.mem_reverse.1 member)
      · cases ended

/-- All that is read of some content can be written, if what was read before it can be. -/
theorem content
    (writable : progress.Writable)
    {entities : Entities}
    {levels depth : Nat}
    {begun : Bool}
    {text rest : List Char}
    (isRead : Xml.content entities levels depth begun progress text = some (rest, next)) :
    next.Writable := by
  -- There is a case for each token that can come next and for how reading it can end.  An entity is
  -- read with what is open around the reference to it, and what follows goes on from there.
  fun_induction Xml.content entities levels depth begun progress text generalizing rest next with
  | case2 | case3 | case5 | case8 | case14 | case15 | case17 => cases isRead
  | case1 =>
      cases isRead
      exact writable
  | case4 _ _ _ _ _ _ _ _ _ _ _ _ isBegun _ inductionHypothesis =>
      exact inductionHypothesis (writable.beginElement isBegun) (by simpa using isRead)
  | case6 _ _ _ _ _ _ _ _ isEnded =>
      cases isRead
      exact writable.endElement isEnded
  | case7 _ _ _ _ _ _ _ _ isEnded _ _ inductionHypothesis =>
      exact inductionHypothesis (writable.endElement isEnded) isRead
  | case9 _ _ _ _ _ _ _ _ _ _ inductionHypothesis
  | case10 _ _ _ _ _ _ _ _ _ _ inductionHypothesis
  | case13 _ _ _ _ _ _ _ _ _ _ inductionHypothesis =>
      exact inductionHypothesis (writable.addText _) isRead
  | case11 _ _ _ _ _ _ _ _ _ _ inductionHypothesis =>
      exact inductionHypothesis (writable.add ⟨.comment _, rfl⟩) isRead
  | case12 _ _ _ _ _ _ _ _ _ _ _ inductionHypothesis =>
      exact inductionHypothesis (writable.add ⟨.instruction _ _, rfl⟩) isRead
  | case16 _ _ _ _ _ _ _ _ _ _ _ _ _ _ after inside _ _ insideHypothesis =>
      rename_i restHypothesis
      have afterWritable : after.Writable :=
        insideHypothesis ⟨writable.pending, writable.outside⟩ inside
      exact restHypothesis ⟨afterWritable.pending, afterWritable.outside⟩ isRead

end Progress.Writable

/-! ## Documents -/

/-- The outermost element is one of the parts. -/
theorem mem_of_outermost?
    {nodes : List Node}
    {document : Document}
    (isOutermost : outermost? nodes = some document) :
    .element document.root document.children ∈ nodes := by
  fun_induction outermost? nodes with
  | case1 => cases isOutermost
  | case2 tag children rest =>
      cases isOutermost
      exact List.mem_cons_self
  | case3 node rest _ inductionHypothesis =>
      exact List.mem_cons_of_mem _ (inductionHypothesis isOutermost)

/-- The outermost element is found among parts that can be written. -/
theorem exists_progress_of_parseBody
    {entities : Entities}
    {text : List Char}
    {document : Document}
    (isRead : parseBody entities text = some document) :
    ∃ progress : Progress, progress.Writable ∧
      outermost? progress.outside.reverse = some document := by
  have start : Progress.Writable {} := ⟨.outermost, nofun⟩
  have ends : ∀ {progress : Progress} {rest : List Char},
      ((Scanner.run Scanner.miscellany rest).bind fun _ =>
          if progress.pending.isEmpty then outermost? progress.outside.reverse else none) =
        some document → outermost? progress.outside.reverse = some document := by
    intro progress rest isEnd
    obtain ⟨_, _, isEnd⟩ := Option.bind_eq_some_iff.1 isEnd
    split at isEnd
    · exact isEnd
    · cases isEnd
  unfold parseBody at isRead
  dsimp only at isRead
  split at isRead
  · obtain ⟨⟨token, rest⟩, _, isRead⟩ := Option.bind_eq_some_iff.1 isRead
    dsimp only at isRead
    split at isRead
    · obtain ⟨progress, isBegun, isRead⟩ := Option.bind_eq_some_iff.1 isRead
      have begun := start.beginElement isBegun
      split at isRead
      · obtain ⟨⟨_, after⟩, isContent, isRead⟩ := Option.bind_eq_some_iff.1 isRead
        exact ⟨after, begun.content isContent, ends isRead⟩
      · exact ⟨progress, begun, ends isRead⟩
    · cases isRead
  · cases isRead

/-- Every document that a text is read as is the expansion of a document as it is written. -/
theorem exists_written_of_parse
    {typeAllowed : Bool}
    {text : String}
    {document : Document}
    (isRead : parse typeAllowed text = some document) :
    ∃ written : WrittenDocument, written.expand = some document := by
  unfold parse at isRead
  obtain ⟨⟨entities, rest⟩, _, isBody⟩ := Option.bind_eq_some_iff.1 isRead
  obtain ⟨progress, writable, isOutermost⟩ := exists_progress_of_parseBody isBody
  have isPart := List.mem_reverse.1 (mem_of_outermost? isOutermost)
  exact (writable.outside _ isPart).exists_document

end Xml
end SchemaBinding
