import Mathlib.Algebra.GroupWithZero.Nat
import ScopedHtml.Proofs.Context

/-!
# ScopedHtml.Proofs.Traversal

**The traversal stops at the first slot without an element, the text does not.** What stands in
a tree is found by its *way* from the root: at each turn the number of a part (`Value.at?`).
Ways in order, a shorter one before those that go on from it and else the one with the smaller
turn first, are document order.

* A traversal that ends well lists what stands at all ways in that order (`Node.Lists`), and
  it does so when elements stand at all of them.
* Otherwise it fails, with the type of what stands first in document order among all that is
  no element (`Node.FirstStray`).
* The text of a page goes through the very same ways (`Value.exists_written`).

One induction on the tree, with one on the rows of parts inside it, shows both outcomes at once
(`Value.visited_walk`).
-/

namespace ScopedHtml

/-! ### Elements by their parts -/

/-- The parts of a value that is an element. -/
def Value.parts : Value → List Value
  | .node element => element.parts
  | _ => []

/-- Whether a value is an element. -/
def Value.IsElement (value : Value) : Prop := ∃ node : Node, value = .node node

/-- A part of an element is smaller than the element. -/
theorem Node.sizeOf_part_lt {node part : Node} (mem : Value.node part ∈ node.parts) :
    sizeOf part < sizeOf node := by
  have inside : sizeOf part < sizeOf (Value.node part) := by simp
  cases node with
  | title content => simp [Node.parts] at mem
  | paragraph content => simp [Node.parts] at mem
  | head inner =>
      simp only [Node.parts, List.mem_singleton] at mem
      simp only [← mem, Node.head.sizeOf_spec]
      omega
  | body children =>
      have among := List.sizeOf_lt_of_mem (show Value.node part ∈ children from mem)
      simp only [Node.body.sizeOf_spec]
      omega
  | division children ident className =>
      have among := List.sizeOf_lt_of_mem (show Value.node part ∈ children from mem)
      simp only [Node.division.sizeOf_spec]
      omega
  | document first second =>
      simp only [Node.parts, List.mem_cons, List.not_mem_nil, or_false] at mem
      rcases mem with mem | mem <;> simp only [← mem, Node.document.sizeOf_spec] <;> omega

/-- What holds of an element as soon as it holds of the elements among its parts holds of all. -/
theorem Node.byParts {P : Node → Prop}
    (step : ∀ node : Node, (∀ part : Node, .node part ∈ node.parts → P part) → P node)
    (node : Node) : P node :=
  step node fun part _ => byParts step part
termination_by sizeOf node
decreasing_by exact sizeOf_part_lt ‹_›

/-! ### Ways -/

/-- What stands at the end of a way from a value: at each turn the part of that number. -/
def Value.at? (value : Value) : List Nat → Option Value
  | [] => some value
  | turn :: way => value.parts[turn]?.bind fun part => part.at? way

/-- What stands at the end of a way from the root of a tree. -/
def Node.at? (root : Node) (way : List Nat) : Option Value := (Value.node root).at? way

/-- What stands at the end of a way that starts in a row. -/
def rowAt? (values : List Value) : List Nat → Option Value
  | [] => none
  | turn :: way => values[turn]?.bind fun part => part.at? way

@[simp] theorem Value.at?_root (value : Value) : value.at? [] = some value := rfl

@[simp] theorem rowAt?_nil_row (way : List Nat) : rowAt? [] way = none := by
  cases way <;> simp [rowAt?]

@[simp] theorem rowAt?_nil (values : List Value) : rowAt? values [] = none := rfl

@[simp] theorem rowAt?_zero (value : Value) (rest : List Value) (way : List Nat) :
    rowAt? (value :: rest) (0 :: way) = value.at? way := by
  simp [rowAt?]

@[simp] theorem rowAt?_succ (value : Value) (rest : List Value) (turn : Nat) (way : List Nat) :
    rowAt? (value :: rest) ((turn + 1) :: way) = rowAt? rest (turn :: way) := by
  simp [rowAt?]

/-! ### The outcome of a traversal -/

/-- Whether elements are what stands at all ways, in order. -/
def Lists (at? : List Nat → Option Value) (nodes : List Node) : Prop :=
  ∃ ways : List (List Nat), (∀ way, way ∈ ways ↔ (at? way).isSome) ∧ ways.Pairwise (· < ·) ∧
    ways.map at? = nodes.map fun node => some (.node node)

/-- Whether a value that is no element stands at the end of a way, and only elements at all
ways before. -/
structure FirstStray (at? : List Nat → Option Value) (way : List Nat) (stray : Value) : Prop where
  there : at? way = some stray
  stray : ¬ stray.IsElement
  before : ∀ (earlier : List Nat) (value : Value), earlier < way → at? earlier = some value →
    value.IsElement

/-- What a traversal comes to, by what stands at the ways it takes. -/
def Visited (at? : List Nat → Option Value) : Except Fault (List Node) → Prop
  | .ok nodes => Lists at? nodes
  | .error fault => ∃ (way : List Nat) (stray : Value), FirstStray at? way stray ∧
      fault = .noAttribute stray.typeName "walk"

/-- Where elements are listed, only elements stand. -/
theorem Lists.isElement {at? : List Nat → Option Value} {nodes : List Node}
    (lists : Lists at? nodes) {way : List Nat} {value : Value} (there : at? way = some value) :
    value.IsElement := by
  obtain ⟨ways, complete, _, eq⟩ := lists
  have mem : some value ∈ ways.map at? :=
    List.mem_map.2 ⟨way, (complete way).2 (by simp [there]), there⟩
  rw [eq] at mem
  obtain ⟨node, _, same⟩ := List.mem_map.1 mem
  exact ⟨node, (Option.some.inj same).symm⟩

/-! ### Rows -/

/-- The way that turns to the next part first. -/
def nextTurn (way : List Nat) : List Nat := way.modifyHead (· + 1)

@[simp] theorem nextTurn_cons (turn : Nat) (way : List Nat) :
    nextTurn (turn :: way) = (turn + 1) :: way := rfl

theorem nextTurn_lt {way other : List Nat} (lt : way < other) : nextTurn way < nextTurn other := by
  cases way <;> cases other <;> simp_all [nextTurn, List.cons_lt_cons_iff]

/-- Ways that turn somewhere, each of which turns to the next part first. -/
theorem mem_map_nextTurn {ways : List (List Nat)}
    (turns : ∀ way ∈ ways, ∃ turn below, way = turn :: below) {way : List Nat} :
    way ∈ ways.map nextTurn ↔ ∃ turn below, way = (turn + 1) :: below ∧ turn :: below ∈ ways := by
  constructor
  · intro mem
    obtain ⟨other, among, rfl⟩ := List.mem_map.1 mem
    obtain ⟨turn, below, rfl⟩ := turns other among
    exact ⟨turn, below, rfl, among⟩
  · rintro ⟨turn, below, rfl, among⟩
    exact List.mem_map.2 ⟨_, among, rfl⟩

/-- A row is listed by listing its first value and then the others. -/
theorem Lists.cons {value : Value} {rest : List Value} {first others : List Node}
    (lists : Lists value.at? first) (lists' : Lists (rowAt? rest) others) :
    Lists (rowAt? (value :: rest)) (first ++ others) := by
  obtain ⟨ways, complete, ordered, eq⟩ := lists
  obtain ⟨ways', complete', ordered', eq'⟩ := lists'
  have turns : ∀ way ∈ ways', ∃ turn below, way = turn :: below := by
    intro way mem
    cases way with
    | nil => simpa using (complete' []).1 mem
    | cons turn below => exact ⟨turn, below, rfl⟩
  refine ⟨ways.map (0 :: ·) ++ ways'.map nextTurn, ?_, ?_, ?_⟩
  · intro way
    rw [List.mem_append, mem_map_nextTurn turns]
    match way with
    | [] => simp
    | 0 :: below => simp [complete]
    | (turn + 1) :: below => simp [complete', and_assoc]
  · refine List.pairwise_append.2 ⟨?_, ?_, ?_⟩
    · exact List.pairwise_map.2 (ordered.imp fun lt => by simpa [List.cons_lt_cons_iff] using lt)
    · exact List.pairwise_map.2 (ordered'.imp nextTurn_lt)
    · intro way mem way' mem'
      obtain ⟨below, _, rfl⟩ := List.mem_map.1 mem
      obtain ⟨other, among, rfl⟩ := List.mem_map.1 mem'
      obtain ⟨turn, below', rfl⟩ := turns other among
      simp [List.cons_lt_cons_iff]
  · have behind : ways'.map (rowAt? (value :: rest) ∘ nextTurn) = ways'.map (rowAt? rest) := by
      refine List.map_congr_left fun way mem => ?_
      obtain ⟨turn, below, rfl⟩ := turns way mem
      simp
    have front : ways.map (rowAt? (value :: rest) ∘ (0 :: ·)) = ways.map value.at? :=
      List.map_congr_left fun way _ => by simp
    rw [List.map_append, List.map_map, List.map_map, behind, front, eq, eq', List.map_append]

/-- What stands first among the strays of the first value is first in the row. -/
theorem FirstStray.head {value stray : Value} {way : List Nat}
    (first : FirstStray value.at? way stray) (rest : List Value) :
    FirstStray (rowAt? (value :: rest)) (0 :: way) stray := by
  refine ⟨by simpa using first.there, first.stray, ?_⟩
  intro earlier found lt there
  match earlier with
  | [] => simp at there
  | 0 :: below =>
      exact first.before below found (by simpa [List.cons_lt_cons_iff] using lt)
        (by simpa using there)
  | (turn + 1) :: below => simp [List.cons_lt_cons_iff] at lt

/-- Behind a value without strays what is first in the rest of a row is first. -/
theorem FirstStray.tail {value stray : Value} {rest : List Value} {nodes : List Node} {turn : Nat}
    {way : List Nat} (lists : Lists value.at? nodes)
    (first : FirstStray (rowAt? rest) (turn :: way) stray) :
    FirstStray (rowAt? (value :: rest)) ((turn + 1) :: way) stray := by
  refine ⟨by simpa using first.there, first.stray, ?_⟩
  intro earlier found lt there
  match earlier with
  | [] => simp at there
  | 0 :: below => exact lists.isElement (by simpa using there)
  | (next + 1) :: below =>
      refine first.before (next :: below) found ?_ (by simpa using there)
      simpa [List.cons_lt_cons_iff] using lt

theorem visited_walkAll {values : List Value}
    (each : ∀ value ∈ values, Visited value.at? value.walk) :
    Visited (rowAt? values) (walkAll values) := by
  induction values with
  | nil =>
      rw [walkAll_nil]
      exact ⟨[], by simp, .nil, rfl⟩
  | cons value rest ih =>
      have one := each value List.mem_cons_self
      have others := ih fun other mem => each other (List.mem_cons_of_mem _ mem)
      rw [walkAll_cons]
      cases walked : value.walk with
      | error fault =>
          rw [walked] at one
          obtain ⟨way, stray, first, rfl⟩ := one
          exact ⟨_, stray, first.head rest, rfl⟩
      | ok nodes =>
          rw [walked] at one
          cases walkedRest : walkAll rest with
          | error fault =>
              rw [walkedRest] at others
              obtain ⟨way, stray, first, rfl⟩ := others
              cases way with
              | nil => cases first.there
              | cons turn below => exact ⟨_, stray, first.tail one, rfl⟩
          | ok further =>
              rw [walkedRest] at others
              exact Lists.cons one others

/-! ### Trees -/

/-- An element stands at the root, before all that stands in its parts. -/
theorem Visited.root {node : Node} {result : Except Fault (List Node)}
    (visited : Visited (rowAt? node.parts) result) :
    Visited node.at? (result.map fun below => node :: below) := by
  cases result with
  | error fault =>
      obtain ⟨way, stray, first, rfl⟩ := visited
      cases way with
      | nil => cases first.there
      | cons turn way =>
          refine ⟨turn :: way, stray, ⟨first.there, first.stray, ?_⟩, rfl⟩
          intro earlier value lt there
          cases earlier with
          | nil => exact ⟨node, (Option.some.inj there).symm⟩
          | cons next below => exact first.before _ value lt there
  | ok below =>
      obtain ⟨ways, complete, ordered, eq⟩ := visited
      have turns : ∀ way ∈ ways, way ≠ [] := by
        intro way mem
        rintro rfl
        simpa using (complete []).1 mem
      refine ⟨[] :: ways, ?_, ?_, ?_⟩
      · intro way
        cases way with
        | nil => simp [Node.at?]
        | cons turn way => exact (by simp : _ ↔ _).trans (complete (turn :: way))
      · refine List.pairwise_cons.2 ⟨fun way mem => ?_, ordered⟩
        cases way with
        | nil => exact absurd rfl (turns [] mem)
        | cons turn way => exact List.nil_lt_cons _ _
      · have same : ways.map node.at? = ways.map (rowAt? node.parts) := by
          refine List.map_congr_left fun way mem => ?_
          cases way with
          | nil => exact absurd rfl (turns [] mem)
          | cons turn way => rfl
        rw [List.map_cons, same, eq]
        rfl

/-- A traversal lists all that stands in a tree, or names what stands first that is no
element. -/
theorem Node.visited_walk (node : Node) : Visited node.at? node.walk := by
  induction node using Node.byParts with
  | step node ih =>
      rw [node.walk_eq_parts]
      refine Visited.root (visited_walkAll fun value mem => ?_)
      cases value with
      | node part => exact ih part mem
      | _ => exact ⟨[], _, ⟨rfl, by simp [Value.IsElement], by simp⟩, rfl⟩

/-- What stands first of all strays stands at one way only. -/
theorem FirstStray.unique {at? : List Nat → Option Value} {way way' : List Nat}
    {stray stray' : Value} (first : FirstStray at? way stray)
    (first' : FirstStray at? way' stray') : stray = stray' := by
  have same : way = way' := by
    apply List.le_antisymm
    · exact List.not_lt.1 fun lt => first'.stray (first.before _ _ lt first'.there)
    · exact List.not_lt.1 fun lt => first.stray (first'.before _ _ lt first.there)
  subst same
  exact Option.some.inj (first.there.symm.trans first'.there)

/-- The traversal fails at what stands first of all that is no element. -/
theorem Node.walk_of_firstStray {root : Node} {way : List Nat} {stray : Value}
    (first : FirstStray root.at? way stray) :
    root.walk = .error (.noAttribute stray.typeName "walk") := by
  have visited := root.visited_walk
  cases walked : root.walk with
  | ok nodes =>
      rw [walked] at visited
      exact absurd (Lists.isElement visited first.there) first.stray
  | error fault =>
      rw [walked] at visited
      obtain ⟨way', stray', first', rfl⟩ := visited
      rw [first.unique first']

/-- The traversal of a row is the traversals of its values, one after the other. -/
theorem exists_parts_of_walkAll {values : List Value} {nodes : List Node}
    (walked : walkAll values = .ok nodes) :
    ∃ below : List (List Node), values.map Value.walk = below.map .ok ∧ nodes = below.flatten := by
  induction values generalizing nodes with
  | nil =>
      rw [walkAll_nil] at walked
      cases walked
      exact ⟨[], rfl, rfl⟩
  | cons value rest ih =>
      rw [walkAll_cons] at walked
      cases one : value.walk with
      | error fault => simp [one, Except.bind] at walked
      | ok first =>
          cases others : walkAll rest with
          | error fault => simp [one, others, Except.bind, Except.map] at walked
          | ok further =>
              simp only [one, others, Except.bind, Except.map, Except.ok.injEq] at walked
              obtain ⟨below, eq, rfl⟩ := ih others
              exact ⟨first :: below, by simp [one, eq], by simp [← walked]⟩

theorem Node.exists_parts_of_walk {root : Node} {nodes : List Node} (walked : root.walk = .ok nodes) :
    ∃ below : List (List Node), root.parts.map Value.walk = below.map .ok ∧
      nodes = root :: below.flatten := by
  rw [root.walk_eq_parts] at walked
  cases inside : walkAll root.parts with
  | error fault => simp [inside, Except.map] at walked
  | ok others =>
      simp only [inside, Except.map, Except.ok.injEq] at walked
      obtain ⟨below, eq, rfl⟩ := exists_parts_of_walkAll inside
      exact ⟨below, eq, walked.symm⟩

/-! ### Slots and children -/

namespace Node

/-- What stands in the slots of an element that are meant for one element each. -/
def slots : Node → List Value
  | .head inner => [inner]
  | .document first second => [first, second]
  | _ => []

/-- The children of an element that can have any number of them. -/
def children : Node → List Value
  | .body children => children
  | .division children _ _ => children
  | _ => []

variable {root holder : Node} {value : Value} {way : List Nat}

theorem mem_parts_iff : value ∈ holder.parts ↔ value ∈ holder.slots ∨ value ∈ holder.children := by
  cases holder <;> simp [parts, slots, children]

/-- What stands in a tree is its root or a part of an element it holds. -/
theorem at?_cases (there : root.at? way = some value) :
    value = .node root ∨ ∃ holder, root.Holds holder ∧ value ∈ holder.parts := by
  induction way generalizing root with
  | nil => exact .inl (Option.some.inj there).symm
  | cons turn way ih =>
      obtain ⟨part, found, below⟩ := Option.bind_eq_some_iff.1 there
      have mem : part ∈ root.parts := List.mem_of_getElem? found
      cases way with
      | nil =>
          cases below
          exact .inr ⟨root, .refl, mem⟩
      | cons next further =>
          cases part with
          | node inner =>
              rcases ih below with rfl | ⟨holder, holds, among⟩
              · exact .inr ⟨root, .refl, mem⟩
              · exact .inr ⟨holder, .head mem holds, among⟩
          | _ => simp [Value.at?, Value.parts] at below

/-- All parts of the elements that a tree holds stand in it. -/
theorem exists_at? (holds : root.Holds holder) (mem : value ∈ holder.parts) :
    ∃ way, root.at? way = some value := by
  induction holds using Relation.ReflTransGen.head_induction_on with
  | refl =>
      obtain ⟨turn, found⟩ := List.getElem?_of_mem mem
      exact ⟨[turn], Option.bind_eq_some_iff.2 ⟨value, found, rfl⟩⟩
  | head has _ ih =>
      obtain ⟨way, there⟩ := ih
      obtain ⟨turn, found⟩ := List.getElem?_of_mem has
      exact ⟨turn :: way, Option.bind_eq_some_iff.2 ⟨_, found, there⟩⟩

/-- The traversal ends well when all parts of all elements in the tree are elements. -/
theorem exists_walk_iff :
    (∃ nodes, root.walk = .ok nodes) ↔
      ∀ holder, root.Holds holder → ∀ part ∈ holder.parts, part.IsElement := by
  have visited := root.visited_walk
  constructor
  · intro ⟨nodes, walked⟩ holder holds part mem
    rw [walked] at visited
    obtain ⟨way, there⟩ := exists_at? holds mem
    exact Lists.isElement visited there
  · intro elements
    cases walked : root.walk with
    | ok nodes => exact ⟨nodes, rfl⟩
    | error fault =>
        rw [walked] at visited
        obtain ⟨way, stray, first, _⟩ := visited
        rcases at?_cases first.there with rfl | ⟨holder, holds, mem⟩
        · exact absurd ⟨root, rfl⟩ first.stray
        · exact absurd (elements holder holds stray mem) first.stray

end Node

/-! ### Texts -/

/-- The text of a part stands in the text of the element in one piece. -/
theorem Node.exists_chars_part {node : Node} {part : Value} (mem : part ∈ node.parts) :
    ∃ pre post : List Char, node.chars = pre ++ part.chars ++ post := by
  cases node with
  | title content => cases mem
  | paragraph content => cases mem
  | head inner =>
      cases List.mem_singleton.1 mem
      exact ⟨_, _, by rw [chars_head, List.append_assoc]⟩
  | body children =>
      obtain ⟨before, after, rfl⟩ := List.append_of_mem (show part ∈ children from mem)
      rw [chars_body, lineChars_append, lineChars_cons]
      exact ⟨"<body>\n".toList ++ lineChars before, '\n' :: lineChars after ++ "</body>".toList,
        by simp⟩
  | division children ident className =>
      obtain ⟨before, after, rfl⟩ := List.append_of_mem (show part ∈ children from mem)
      rw [chars_division, joinedChars_around]
      exact ⟨"<div".toList ++ (attributeChars "id".toList ident ++
        (attributeChars "class".toList className ++ '>' :: lineChars before)),
        restChars after ++ "</div>".toList, by simp⟩
  | document first second =>
      rw [chars_document]
      have either : part = first ∨ part = second := by simpa [Node.parts] using mem
      rcases either with rfl | rfl
      · exact ⟨"<html>\n".toList, '\n' :: (second.chars ++ "\n</html>".toList), by simp⟩
      · exact ⟨"<html>\n".toList ++ first.chars ++ ['\n'], "\n</html>".toList, by simp⟩

/-- So does the text of all that stands in a value, element or not. -/
theorem Value.exists_chars_at? {root value : Value} {way : List Nat}
    (there : root.at? way = some value) :
    ∃ pre post : List Char, root.chars = pre ++ value.chars ++ post := by
  induction way generalizing root with
  | nil =>
      cases there
      exact ⟨[], [], by simp⟩
  | cons turn way ih =>
      obtain ⟨part, found, below⟩ := Option.bind_eq_some_iff.1 there
      obtain ⟨pre, post, inside⟩ := ih below
      have mem := List.mem_of_getElem? found
      cases root with
      | node node =>
          obtain ⟨before, after, around⟩ := Node.exists_chars_part mem
          exact ⟨before ++ pre, post ++ after, by rw [chars_node, around, inside]; simp⟩
      | _ => cases mem

theorem Node.exists_written {root : Node} {value : Value} {way : List Nat}
    (there : root.at? way = some value) :
    ∃ pre post : String, root.render = pre ++ value.written ++ post := by
  obtain ⟨pre, post, eq⟩ := Value.exists_chars_at? there
  refine ⟨String.ofList pre, String.ofList post, String.toList_injective ?_⟩
  simpa [Value.chars] using eq

/-! ### Rendering and traversal -/

/-- What a traversal says of a value that is no element. -/
theorem Value.walk_fault {stray : Value} (notElement : ¬ stray.IsElement) :
    (Fault.noAttribute stray.typeName "walk").isAttribute = true ∧
    (Fault.noAttribute stray.typeName "walk").message =
      "'" ++ stray.typeName ++ "' object has no attribute 'walk'" := by
  have short : Text.byteCount stray.typeName.toList ≤ Fault.attributeLimit := by
    cases stray with
    | node node => exact absurd ⟨node, rfl⟩ notElement
    | _ => simp only [typeName]; decide
  refine ⟨rfl, ?_⟩
  show "'" ++ Text.cut Fault.attributeLimit stray.typeName ++ "' object has no attribute '" ++
    "walk" ++ "'" = _
  rw [Text.cut_of_le short, String.append_assoc, String.append_assoc, String.append_assoc,
    String.append_assoc]
  congr 2

/-- **Rendering goes through every slot, traversal stops at the first one without an element.**
Every tree has a text, in which the text of all that stands in the tree stands in one piece. Its
traversal ends well when all parts of the elements in the tree are elements, so, if all children
are, when the slots for titles, heads and bodies hold elements, too. Then it lists the elements
at all ways of the tree in document order, each once: the root and then, part by part, what the
parts list. Otherwise it fails, for want of an attribute, with the type of what stands first
in document order among all that is no element, whatever follows. -/
theorem Node.walk_fails_at_first_stray :
    (∀ root : Node, ∃ text : String, root.render = text ∧
      ∀ (way : List Nat) (value : Value), root.at? way = some value →
        ∃ pre post : String, text = pre ++ value.written ++ post) ∧
    (∀ root : Node, (∃ nodes, root.walk = .ok nodes) ↔
      ∀ holder, root.Holds holder → ∀ part ∈ holder.parts, part.IsElement) ∧
    (∀ root : Node,
      (∀ holder, root.Holds holder → ∀ child ∈ holder.children, child.IsElement) →
      ((∃ nodes, root.walk = .ok nodes) ↔
        ∀ holder, root.Holds holder → ∀ slot ∈ holder.slots, slot.IsElement) ∧
      ∀ (way : List Nat) (stray : Value), FirstStray root.at? way stray →
        ∃ holder, root.Holds holder ∧ stray ∈ holder.slots) ∧
    (∀ (root : Node) (nodes : List Node), root.walk = .ok nodes →
      Lists root.at? nodes ∧
      ∃ below : List (List Node), root.parts.map Value.walk = below.map .ok ∧
        nodes = root :: below.flatten ∧ nodes.length = 1 + (below.map List.length).sum) ∧
    (∀ root : Node, (¬ ∃ nodes, root.walk = .ok nodes) ↔
      ∃ (way : List Nat) (stray : Value), FirstStray root.at? way stray) ∧
    (∀ (root : Node) (way : List Nat) (stray : Value), FirstStray root.at? way stray →
      root.walk = .error (.noAttribute stray.typeName "walk") ∧
      (Fault.noAttribute stray.typeName "walk").isAttribute = true ∧
      (Fault.noAttribute stray.typeName "walk").message =
        "'" ++ stray.typeName ++ "' object has no attribute 'walk'") := by
  refine ⟨fun root => ⟨_, rfl, fun _ _ there => exists_written there⟩, fun _ => exists_walk_iff,
    ?_, ?_, ?_, ?_⟩
  · intro root elements
    constructor
    · rw [exists_walk_iff]
      constructor
      · intro parts holder holds slot mem
        exact parts holder holds slot (mem_parts_iff.2 (.inl mem))
      · intro slots holder holds part mem
        exact (mem_parts_iff.1 mem).elim (slots holder holds part) (elements holder holds part)
    · intro way stray first
      rcases at?_cases first.there with rfl | ⟨holder, holds, mem⟩
      · exact absurd ⟨root, rfl⟩ first.stray
      · refine ⟨holder, holds, (mem_parts_iff.1 mem).resolve_right fun child => ?_⟩
        exact first.stray (elements holder holds stray child)
  · intro root nodes walked
    have lists := root.visited_walk
    rw [walked] at lists
    obtain ⟨below, eq, rfl⟩ := exists_parts_of_walk walked
    refine ⟨lists, below, eq, rfl, ?_⟩
    rw [List.length_cons, List.length_flatten, Nat.add_comm]
  · intro root
    constructor
    · intro fails
      have visited := root.visited_walk
      cases walked : root.walk with
      | ok nodes => exact absurd ⟨nodes, walked⟩ fails
      | error fault =>
          rw [walked] at visited
          obtain ⟨way, stray, first, _⟩ := visited
          exact ⟨way, stray, first⟩
    · intro ⟨way, stray, first⟩ ⟨nodes, walked⟩
      cases walked.symm.trans (walk_of_firstStray first)
  · intro root way stray first
    exact ⟨walk_of_firstStray first, Value.walk_fault first.stray⟩

/-- A document with a number for its title and a text for its body. -/
def Node.patched : Node := .document (.node (.head (.int 7))) (.text "x")

example : Node.patched.render = "<html>\n<head>\n7\n</head>\nx\n</html>" := by rfl

/-- The title comes before the body. -/
theorem Node.walk_fails_at_first_stray_patched :
    FirstStray patched.at? [0, 0] (.int 7) ∧
    patched.walk = .error (.noAttribute "int" "walk") ∧
    (∃ holder, patched.Holds holder ∧ Value.int 7 ∈ holder.slots) ∧
    (∃ pre post : String, patched.render = pre ++ (Value.text "x").written ++ post) := by
  have stray : FirstStray patched.at? [0, 0] (.int 7) := by
    refine ⟨rfl, by simp [Value.IsElement], ?_⟩
    intro earlier value lt there
    match earlier with
    | [] => exact ⟨_, (Option.some.inj there).symm⟩
    | [0] => exact ⟨_, (Option.some.inj there).symm⟩
    | 0 :: turn :: below => simp [List.cons_lt_cons_iff] at lt
    | (turn + 1) :: below => simp [List.cons_lt_cons_iff] at lt
  have children : ∀ holder, patched.Holds holder → ∀ child ∈ holder.children, child.IsElement := by
    intro holder holds child mem
    obtain rfl | ⟨part, has, further⟩ := Relation.ReflTransGen.cases_head holds
    · cases mem
    · obtain rfl : part = .head (.int 7) := by
        simpa [HasPart, patched, parts] using has
      obtain rfl | ⟨inner, has, _⟩ := Relation.ReflTransGen.cases_head further
      · cases mem
      · simp [HasPart, parts] at has
  obtain ⟨texts, _, slots, _, _, fails⟩ := walk_fails_at_first_stray
  obtain ⟨text, rendered, inside⟩ := texts patched
  exact ⟨stray, (fails _ _ _ stray).1, (slots _ children).2 _ _ stray,
    rendered ▸ inside [1] (.text "x") rfl⟩

end ScopedHtml
