import ScopedHtml.Node.Walk
import ScopedHtml.Proofs.Decode

/-!
# ScopedHtml.Proofs.Events

**Rendering and traversal agree.** A scanner reads the text of a page from the left and
takes each opening bracket for an event: a tag is opened there or closed (`eventsIn`).
If no content and no attribute holds such a bracket (`Node.Bracketless`), then the
events of a page are well nested, what is opened is what the traversal visits, and what
stands in the tags of leaves is what the traversal finds in them
(`Node.events_agree_with_walk`).

In between stand the marks of a page (`Node.marks`), read off the tree: an event for
each tag, with the content of a leaf beside the event that opens it.

* `marksIn_chars` — the scanner finds the marks of the page, whatever stands behind it;
* `closesAll_marks` — the marks close what they open, inside whatever is open already;
* `Node.walk_eq_ok` — the traversal visits what the marks open.
-/

namespace ScopedHtml

/-! ### Scanning a text -/

/-- What an opening bracket begins. -/
inductive Event
  | opening (name : String)
  | closing (name : String)
  deriving DecidableEq, Repr

namespace Event

/-- The letters at the start of a text. -/
def letters (text : List Char) : String := String.ofList (text.takeWhile Char.isAlpha)

/-- The event of a bracket with this text behind it. -/
def ofRest : List Char → Event
  | '/' :: rest => closing (letters rest)
  | rest => opening (letters rest)

/-- The name of a tag that is opened. -/
def opened? : Event → Option String
  | opening name => some name
  | closing _ => none

end Event

/-- What stands behind each opening bracket of a text, from left to right. -/
def restsIn : List Char → List (List Char)
  | [] => []
  | c :: rest => if c = '<' then rest :: restsIn rest else restsIn rest

/-- The text of a leaf that a bracket with this text behind it opens: all from the end of
the tag to the next bracket. -/
def leafText? (rest : List Char) : Option String :=
  if Event.ofRest rest ∈ [.opening "title", .opening "p"] then
    some (String.ofList (((rest.dropWhile (· ≠ '>')).drop 1).takeWhile (· ≠ '<')))
  else none

/-- The events of a text. -/
def eventsIn (text : String) : List Event := (restsIn text.toList).map Event.ofRest

/-- The texts of the leaves that a text opens. -/
def leafTextsIn (text : String) : List String := (restsIn text.toList).filterMap leafText?

/-- Whether events close what is open, the last opened first, and all that they open. -/
def closesAll : List String → List Event → Bool
  | [], [] => true
  | _ :: _, [] => false
  | stack, .opening name :: rest => closesAll (name :: stack) rest
  | [], .closing _ :: _ => false
  | top :: stack, .closing name :: rest => top = name && closesAll stack rest

/-! ### Pages without brackets in their texts -/

mutual

/-- A page whose slots and children are elements throughout, whose contents are texts, and
of which no content or attribute has an opening bracket. -/
def Node.Bracketless : Node → Prop
  | .title content => content.CleanContent
  | .paragraph content => content.CleanContent
  | .head inner => inner.IsBracketless
  | .body children => AreBracketless children
  | .division children ident className =>
      AreBracketless children ∧ '<' ∉ ident.chars ∧ '<' ∉ className.chars
  | .document first second => first.IsBracketless ∧ second.IsBracketless

/-- A value that is such a page. -/
def Value.IsBracketless : Value → Prop
  | .node element => element.Bracketless
  | _ => False

/-- Values in a row that are such pages. -/
def AreBracketless : List Value → Prop
  | [] => True
  | value :: rest => value.IsBracketless ∧ AreBracketless rest

end

theorem Value.IsBracketless.exists_node {value : Value} (h : value.IsBracketless) :
    ∃ element, value = .node element ∧ element.Bracketless := by
  cases value with
  | node element => exact ⟨element, rfl, by simpa [Value.IsBracketless] using h⟩
  | _ => exact absurd h (by simp [Value.IsBracketless])

/-! ### Marks -/

/-- An event, with the text of the leaf that it opens. -/
abbrev Mark := Event × Option String

/-- The marks of an element around those of its children. -/
def NodeKind.around (kind : NodeKind) (leaf : Option String) (inner : List Mark) : List Mark :=
  (.opening kind.tag, leaf) :: (inner ++ [(.closing kind.tag, none)])

mutual

/-- The marks of an element. -/
def Node.marks : Node → List Mark
  | .title content => NodeKind.title.around (some content.written) []
  | .paragraph content => NodeKind.paragraph.around (some content.written) []
  | .head inner => NodeKind.head.around none inner.marks
  | .body children => NodeKind.body.around none (marksOf children)
  | .division children _ _ => NodeKind.division.around none (marksOf children)
  | .document first second => NodeKind.document.around none (first.marks ++ second.marks)

/-- The marks of a value in a slot. -/
def Value.marks : Value → List Mark
  | .node element => element.marks
  | _ => []

/-- The marks of values in a row. -/
def marksOf : List Value → List Mark
  | [] => []
  | value :: rest => value.marks ++ marksOf rest

end

/-- The marks that a scanner finds in a text. -/
def marksIn (text : List Char) : List Mark :=
  (restsIn text).map fun rest => (Event.ofRest rest, leafText? rest)

/-! ### The scanner finds the marks -/

/-- A text without a bracket raises no event. -/
theorem marksIn_skip {u : List Char} (h : '<' ∉ u) (s : List Char) :
    marksIn (u ++ s) = marksIn s := by
  induction u with
  | nil => rfl
  | cons c u ih =>
      rw [List.mem_cons, not_or] at h
      rw [← ih h.2, marksIn, marksIn, List.cons_append, restsIn, if_neg (Ne.symm h.1)]

/-- A bracket raises an event. -/
theorem marksIn_bracket (s : List Char) :
    marksIn ('<' :: s) = (Event.ofRest s, leafText? s) :: marksIn s := by
  rw [marksIn, restsIn, if_pos rfl]
  rfl

theorem marksIn_newline (s : List Char) : marksIn ('\n' :: s) = marksIn s :=
  marksIn_skip (List.not_mem_cons_of_ne_of_not_mem (by decide) List.not_mem_nil) s

/-- Whatever follows a closing tag, the tag raises its event. -/
theorem marksIn_closing (kind : NodeKind) (s : List Char) :
    marksIn ('<' :: '/' :: (kind.tag.toList ++ '>' :: s)) =
      (.closing kind.tag, none) :: marksIn s := by
  have event : Event.ofRest ('/' :: (kind.tag.toList ++ '>' :: s)) = .closing kind.tag := by
    cases kind <;> rfl
  rw [marksIn_bracket, leafText?, event, if_neg (by simp)]
  have silent : '<' ∉ '/' :: (kind.tag.toList ++ ['>']) := by cases kind <;> decide
  have skipped := marksIn_skip silent s
  simp only [List.cons_append, List.append_assoc, List.nil_append] at skipped
  rw [skipped]

/-- An opening tag raises its event, whatever ends its name. -/
theorem marksIn_opening (kind : NodeKind) {c : Char} (ends : c.isAlpha = false)
    (rest : List Char) :
    marksIn ('<' :: (kind.tag.toList ++ c :: rest)) =
      (.opening kind.tag, leafText? (kind.tag.toList ++ c :: rest)) :: marksIn (c :: rest) := by
  have event : Event.ofRest (kind.tag.toList ++ c :: rest) = .opening kind.tag := by
    cases kind <;> simp [NodeKind.tag, Event.ofRest, Event.letters, ends]
  have silent : '<' ∉ kind.tag.toList := by cases kind <;> decide
  rw [marksIn_bracket, event, marksIn_skip silent]

/-- Only a leaf has a text. -/
theorem leafText?_of_ne {kind : NodeKind} (title : kind ≠ .title) (paragraph : kind ≠ .paragraph)
    {c : Char} (ends : c.isAlpha = false) (rest : List Char) :
    leafText? (kind.tag.toList ++ c :: rest) = none := by
  have event : Event.ofRest (kind.tag.toList ++ c :: rest) = .opening kind.tag := by
    cases kind <;> simp [NodeKind.tag, Event.ofRest, Event.letters, ends]
  rw [leafText?, event, if_neg]
  revert title paragraph
  cases kind <;> decide

/-- The text of a leaf ends at the next bracket. -/
theorem leafText?_of_leaf {kind : NodeKind} (leaf : kind = .title ∨ kind = .paragraph)
    {t : List Char} (h : '<' ∉ t) (s : List Char) :
    leafText? (kind.tag.toList ++ '>' :: (t ++ '<' :: s)) = some (String.ofList t) := by
  have taken : (t ++ '<' :: s).takeWhile (· ≠ '<') = t := by
    rw [List.takeWhile_append_of_pos (fun c inside => by
      simpa using fun same => h (by rw [← same]; exact inside))]
    simp
  rcases leaf with rfl | rfl <;>
    simpa [NodeKind.tag, leafText?, Event.ofRest, Event.letters] using
      congrArg String.ofList taken

/-- A leaf raises two events, and its text stands between them. -/
theorem marksIn_leaf (kind : NodeKind) (leaf : kind = .title ∨ kind = .paragraph)
    {t : List Char} (h : '<' ∉ t) (s : List Char) :
    marksIn ('<' :: (kind.tag.toList ++ '>' :: (t ++
        '<' :: '/' :: (kind.tag.toList ++ '>' :: s)))) =
      kind.around (some (String.ofList t)) [] ++ marksIn s := by
  have silent : '<' ∉ '>' :: t := by simpa using h
  rw [marksIn_opening kind rfl, leafText?_of_leaf leaf h, ← List.cons_append,
    marksIn_skip silent, marksIn_closing]
  rfl

/-- A text that ends the name before it. -/
def EndsName (text : List Char) : Prop := ∃ c rest, c.isAlpha = false ∧ text = c :: rest

/-- An element that is no leaf raises two events around those of what stands in it,
whatever else stands in the opening tag. -/
theorem marksIn_around (kind : NodeKind) (title : kind ≠ .title) (paragraph : kind ≠ .paragraph)
    {edge text : List Char} (ends : EndsName edge) (silent : '<' ∉ edge)
    {inner : List Mark} (inside : ∀ s, marksIn (text ++ s) = inner ++ marksIn s)
    (s : List Char) :
    marksIn ('<' :: (kind.tag.toList ++ (edge ++ (text ++
        '<' :: '/' :: (kind.tag.toList ++ '>' :: s))))) =
      kind.around none inner ++ marksIn s := by
  obtain ⟨c, rest, apart, rfl⟩ := ends
  rw [List.cons_append, marksIn_opening kind apart, leafText?_of_ne title paragraph apart,
    ← List.cons_append, marksIn_skip silent, inside, marksIn_closing, NodeKind.around,
    List.cons_append, List.append_assoc]
  rfl

/-- An attribute without a bracket has none in the tag either. -/
theorem not_mem_attributeChars {name : List Char} {value : Value} (silent : '<' ∉ name)
    (h : '<' ∉ value.chars) : '<' ∉ attributeChars name value := by
  cases value <;> simp_all [attributeChars]

/-- An attribute ends the name before it, and so does what follows an unset one. -/
theorem EndsName.attributeChars_append {rest : List Char} (ends : EndsName rest)
    (name : List Char) (value : Value) : EndsName (attributeChars name value ++ rest) := by
  cases value with
  | null => exact ends
  | _ => exact ⟨' ', _, rfl, rfl⟩

mutual

/-- The scanner finds the marks of a page, whatever stands behind it. -/
theorem Node.marksIn_chars {node : Node} (h : node.Bracketless) (s : List Char) :
    marksIn (node.chars ++ s) = node.marks ++ marksIn s := by
  cases node with
  | title content =>
      rw [Node.Bracketless] at h
      obtain ⟨t, rfl, clean⟩ := h.exists_text
      simpa [chars_title, Node.marks, NodeKind.tag] using
        marksIn_leaf .title (.inl rfl) clean s
  | paragraph content =>
      rw [Node.Bracketless] at h
      obtain ⟨t, rfl, clean⟩ := h.exists_text
      simpa [chars_paragraph, Node.marks, NodeKind.tag] using
        marksIn_leaf .paragraph (.inr rfl) clean s
  | head inner =>
      rw [Node.Bracketless] at h
      have inside : ∀ s, marksIn ((inner.chars ++ ['\n']) ++ s) = inner.marks ++ marksIn s := by
        intro s
        rw [List.append_assoc, Value.marksIn_chars h]
        exact congrArg (inner.marks ++ ·) (marksIn_newline s)
      simpa [chars_head, Node.marks, NodeKind.tag] using
        marksIn_around .head (by decide) (by decide)
          ⟨'>', ['\n'], rfl, rfl⟩ (by decide) inside s
  | body children =>
      rw [Node.Bracketless] at h
      simpa [chars_body, Node.marks, NodeKind.tag] using
        marksIn_around .body (by decide) (by decide)
          ⟨'>', ['\n'], rfl, rfl⟩ (by decide) (marksIn_lineChars h) s
  | division children ident className =>
      rw [Node.Bracketless] at h
      obtain ⟨inner, identSilent, classSilent⟩ := h
      have inside : ∀ s, marksIn (joinedChars children ++ s) = marksOf children ++ marksIn s := by
        intro s
        cases children with
        | nil => rfl
        | cons value rest =>
            rw [AreBracketless] at inner
            rw [joinedChars_cons, List.append_assoc, Value.marksIn_chars inner.1,
              marksIn_restChars inner.2, marksOf, List.append_assoc]
      let attributes :=
        attributeChars "id".toList ident ++ (attributeChars "class".toList className ++ ['>'])
      have ends : EndsName attributes :=
        .attributeChars_append (.attributeChars_append ⟨'>', [], rfl, rfl⟩ _ _) _ _
      have silent : '<' ∉ attributes := by
        rw [List.mem_append, List.mem_append]
        rintro (first | second | last)
        · exact not_mem_attributeChars (by decide) identSilent first
        · exact not_mem_attributeChars (by decide) classSilent second
        · exact absurd last (by decide)
      simpa [chars_division, Node.marks, NodeKind.tag, attributes] using
        marksIn_around .division (by decide) (by decide) ends silent inside s
  | document first second =>
      rw [Node.Bracketless] at h
      have inside : ∀ s, marksIn ((first.chars ++ '\n' :: (second.chars ++ ['\n'])) ++ s) =
          (first.marks ++ second.marks) ++ marksIn s := by
        intro s
        rw [List.append_assoc, List.cons_append, List.append_assoc, Value.marksIn_chars h.1,
          marksIn_newline, Value.marksIn_chars h.2, List.append_assoc]
        exact congrArg (fun rest => first.marks ++ (second.marks ++ rest)) (marksIn_newline s)
      simpa [chars_document, Node.marks, NodeKind.tag] using
        marksIn_around .document (by decide) (by decide)
          ⟨'>', ['\n'], rfl, rfl⟩ (by decide) inside s

theorem Value.marksIn_chars {value : Value} (h : value.IsBracketless) (s : List Char) :
    marksIn (value.chars ++ s) = value.marks ++ marksIn s := by
  obtain ⟨element, rfl, inner⟩ := h.exists_node
  rw [Value.chars_node, Value.marks]
  exact Node.marksIn_chars inner s

/-- Children on lines of their own. -/
theorem marksIn_lineChars {values : List Value} (h : AreBracketless values) (s : List Char) :
    marksIn (lineChars values ++ s) = marksOf values ++ marksIn s := by
  cases values with
  | nil => rfl
  | cons value rest =>
      rw [AreBracketless] at h
      rw [lineChars_cons, List.append_assoc, List.cons_append, Value.marksIn_chars h.1,
        marksIn_newline, marksIn_lineChars h.2, marksOf, List.append_assoc]

/-- Children with line feeds before them. -/
theorem marksIn_restChars {values : List Value} (h : AreBracketless values) (s : List Char) :
    marksIn (restChars values ++ s) = marksOf values ++ marksIn s := by
  cases values with
  | nil => rfl
  | cons value rest =>
      rw [AreBracketless] at h
      rw [restChars_cons, List.cons_append, marksIn_newline, List.append_assoc,
        Value.marksIn_chars h.1, marksIn_restChars h.2, marksOf, List.append_assoc]

end

/-! ### The marks are well nested -/

mutual

/-- The marks of a page close what they open, inside whatever is open already. -/
theorem closesAll_marks (node : Node) (stack : List String) (rest : List Event) :
    closesAll stack (node.marks.map Prod.fst ++ rest) = closesAll stack rest := by
  cases node with
  | title content => simp [Node.marks, NodeKind.around, closesAll]
  | paragraph content => simp [Node.marks, NodeKind.around, closesAll]
  | head inner =>
      simp [Node.marks, NodeKind.around, closesAll, closesAll_value inner]
  | body children =>
      simp [Node.marks, NodeKind.around, closesAll, closesAll_marksOf children]
  | division children ident className =>
      simp [Node.marks, NodeKind.around, closesAll, closesAll_marksOf children]
  | document first second =>
      simp [Node.marks, NodeKind.around, closesAll, closesAll_value first, closesAll_value second]

theorem closesAll_value (value : Value) (stack : List String) (rest : List Event) :
    closesAll stack (value.marks.map Prod.fst ++ rest) = closesAll stack rest := by
  cases value with
  | node element => simpa [Value.marks] using closesAll_marks element stack rest
  | _ => simp [Value.marks]

theorem closesAll_marksOf (values : List Value) (stack : List String) (rest : List Event) :
    closesAll stack ((marksOf values).map Prod.fst ++ rest) = closesAll stack rest := by
  cases values with
  | nil => simp [marksOf]
  | cons value others =>
      simp [marksOf, closesAll_value value, closesAll_marksOf others]

end

/-! ### The traversal visits what the marks open -/

/-- The names of the tags that marks open. -/
def openedIn (marks : List Mark) : List String := marks.filterMap fun mark => mark.1.opened?

/-- The contents of the leaves that marks open. -/
def leavesIn (marks : List Mark) : List Value := marks.filterMap fun mark => mark.2.map Value.text

/-- Elements are what marks open: their tags are the names, and their contents those of
the leaves. -/
def Visits (marks : List Mark) (nodes : List Node) : Prop :=
  openedIn marks = nodes.map Node.tag ∧ leavesIn marks = nodes.filterMap Node.content?

theorem Visits.append {marks others : List Mark} {nodes more : List Node}
    (first : Visits marks nodes) (second : Visits others more) :
    Visits (marks ++ others) (nodes ++ more) := by
  simp only [Visits, openedIn, leavesIn, List.filterMap_append, List.map_append] at first second ⊢
  exact ⟨by rw [first.1, second.1], by rw [first.2, second.2]⟩

/-- An element with marks around those of its children is visited before them. -/
theorem Visits.around (node : Node) {leaf : Option String} {inner : List Mark}
    {nodes : List Node} (content : leaf.map Value.text = node.content?)
    (inside : Visits inner nodes) : Visits (node.kind.around leaf inner) (node :: nodes) := by
  have opened : Visits [(.opening node.kind.tag, leaf)] [node] := by
    cases leaf <;> simp_all [Visits, openedIn, leavesIn, Event.opened?, Node.tag]
    simp [← content]
  have closed : Visits [(.closing node.kind.tag, none)] [] := by
    simp [Visits, openedIn, leavesIn, Event.opened?]
  simpa [NodeKind.around] using opened.append (inside.append closed)

mutual

/-- The traversal of a page succeeds, and visits what its marks open. -/
theorem Node.walk_eq_ok {node : Node} (h : node.Bracketless) :
    ∃ nodes, node.walk = .ok nodes ∧ Visits node.marks nodes := by
  cases node with
  | title content =>
      rw [Node.Bracketless] at h
      obtain ⟨t, rfl, -⟩ := h.exists_text
      refine ⟨_, by rw [Node.walk], ?_⟩
      rw [Node.marks, Value.written_text]
      exact Visits.around (.title (.text t)) rfl ⟨rfl, rfl⟩
  | paragraph content =>
      rw [Node.Bracketless] at h
      obtain ⟨t, rfl, -⟩ := h.exists_text
      refine ⟨_, by rw [Node.walk], ?_⟩
      rw [Node.marks, Value.written_text]
      exact Visits.around (.paragraph (.text t)) rfl ⟨rfl, rfl⟩
  | head inner =>
      rw [Node.Bracketless] at h
      obtain ⟨below, walked, visits⟩ := Value.walk_eq_ok h
      refine ⟨_, by rw [Node.walk, walked]; rfl, ?_⟩
      rw [Node.marks]
      exact Visits.around (.head inner) rfl visits
  | body children =>
      rw [Node.Bracketless] at h
      obtain ⟨below, walked, visits⟩ := walkAll_eq_ok h
      refine ⟨_, by rw [Node.walk, walked]; rfl, ?_⟩
      rw [Node.marks]
      exact Visits.around (.body children) rfl visits
  | division children ident className =>
      rw [Node.Bracketless] at h
      obtain ⟨below, walked, visits⟩ := walkAll_eq_ok h.1
      refine ⟨_, by rw [Node.walk, walked]; rfl, ?_⟩
      rw [Node.marks]
      exact Visits.around (.division children ident className) rfl visits
  | document first second =>
      rw [Node.Bracketless] at h
      obtain ⟨before, walkedFirst, visitsFirst⟩ := Value.walk_eq_ok h.1
      obtain ⟨after, walkedSecond, visitsSecond⟩ := Value.walk_eq_ok h.2
      refine ⟨_, by rw [Node.walk, walkedFirst, walkedSecond]; rfl, ?_⟩
      rw [Node.marks]
      exact Visits.around (.document first second) rfl (visitsFirst.append visitsSecond)

theorem Value.walk_eq_ok {value : Value} (h : value.IsBracketless) :
    ∃ nodes, value.walk = .ok nodes ∧ Visits value.marks nodes := by
  obtain ⟨element, rfl, inner⟩ := h.exists_node
  rw [Value.walk, Value.marks]
  exact Node.walk_eq_ok inner

theorem walkAll_eq_ok {values : List Value} (h : AreBracketless values) :
    ∃ nodes, walkAll values = .ok nodes ∧ Visits (marksOf values) nodes := by
  cases values with
  | nil => exact ⟨[], by rw [walkAll], by rw [marksOf]; exact ⟨rfl, rfl⟩⟩
  | cons value rest =>
      rw [AreBracketless] at h
      obtain ⟨first, walkedFirst, visitsFirst⟩ := Value.walk_eq_ok h.1
      obtain ⟨others, walkedRest, visitsRest⟩ := walkAll_eq_ok h.2
      refine ⟨_, by rw [walkAll, walkedFirst, walkedRest]; rfl, ?_⟩
      rw [marksOf]
      exact visitsFirst.append visitsRest

end

/-! ### The text of a page -/

theorem eventsIn_eq_marks (text : String) :
    eventsIn text = (marksIn text.toList).map Prod.fst := by
  rw [eventsIn, marksIn, List.map_map]
  rfl

theorem leafTextsIn_eq_marks (text : String) :
    leafTextsIn text = (marksIn text.toList).filterMap Prod.snd := by
  rw [leafTextsIn, marksIn, List.filterMap_map]
  rfl

/-- The marks that a scanner finds in the text of a page are those of the page. -/
theorem Node.marksIn_render {node : Node} (h : node.Bracketless) :
    marksIn node.render.toList = node.marks := by
  simpa [Node.chars, marksIn, restsIn] using Node.marksIn_chars h []

/-- **Rendering and traversal agree.** The events in the text of a page are well nested,
and nothing is left open; the names that they open are the tags of the elements that the
traversal visits, in that order; and the texts between the opening tag of a leaf and the
next bracket are the contents of the titles and paragraphs that it visits. -/
theorem Node.events_agree_with_walk {node : Node} (h : node.Bracketless) :
    closesAll [] (eventsIn node.render) = true ∧
      ∃ nodes, node.walk = .ok nodes ∧
        (eventsIn node.render).filterMap Event.opened? = nodes.map Node.tag ∧
        (leafTextsIn node.render).map Value.text = nodes.filterMap Node.content? := by
  obtain ⟨nodes, walked, opened, leaves⟩ := Node.walk_eq_ok h
  rw [eventsIn_eq_marks, leafTextsIn_eq_marks, Node.marksIn_render h]
  refine ⟨?_, nodes, walked, ?_, ?_⟩
  · simpa [closesAll] using closesAll_marks node [] []
  · rw [List.filterMap_map]
    exact opened
  · rw [List.map_filterMap]
    exact leaves

/-- A page with brackets and quotes in its contents and attributes. -/
def quotedPage : Node :=
  .document (.node (.head (.node (.title (.text "a > b")))))
    (.node (.body [.node (.paragraph (.text "")), .node (.division [.node (.division [] .null .null),
      .node (.paragraph (.text "/p>\n\""))] (.text "x\">") .null)]))

theorem events_agree_with_walk_quotedPage :
    quotedPage.Bracketless ∧ closesAll [] (eventsIn quotedPage.render) = true ∧
      ∃ nodes, quotedPage.walk = .ok nodes ∧
        (eventsIn quotedPage.render).filterMap Event.opened? = nodes.map Node.tag ∧
        (leafTextsIn quotedPage.render).map Value.text = nodes.filterMap Node.content? := by
  have bracketless : quotedPage.Bracketless := by
    simp [quotedPage, Node.Bracketless, Value.IsBracketless, AreBracketless, Value.CleanContent,
      Value.chars, Value.written, Value.quoted]
  exact ⟨bracketless, Node.events_agree_with_walk bracketless⟩

end ScopedHtml