import ScopedHtml.Proofs.Layout

/-!
# ScopedHtml.Proofs.Decode

**Unique decodability of pages.** The text of a clean page determines the page
and where its text ends: two clean pages whose texts agree on a common stretch
are the same page. Clean means that the markup can be told from what it marks up:
every slot and child is an element, no content holds `<` and no attribute holds a
double quote (`Node.Clean`). Everything else may stand in contents and
attributes, the empty text and line feeds included.

The proof reads both texts from the left at once:

* two characters behind the first `<` tell the kind (`kind_eq_of_chars`);
* a content ends at the first `<`, an attribute at the first double quote
  (`cut_at`), and whether an attribute is there shows in what stands before it
  (`attributeChars_cancel`);
* behind a child stands either another child or a closing tag, and no child opens
  with `</` (`chars_ne_closing`).
-/

namespace ScopedHtml

/-! ### Clean pages -/

/-- A content that is a text without an opening bracket. -/
def Value.CleanContent : Value → Prop
  | .text s => '<' ∉ s.toList
  | _ => False

/-- An attribute that is unset or a text without a double quote. -/
def Value.CleanAttribute : Value → Prop
  | .null => True
  | .text s => '"' ∉ s.toList
  | _ => False

mutual

/-- A page whose slots and children are elements throughout and whose contents and
attributes do not look like markup. -/
def Node.Clean : Node → Prop
  | .title content => content.CleanContent
  | .paragraph content => content.CleanContent
  | .head inner => inner.CleanElement
  | .body children => CleanElements children
  | .division children ident className =>
      CleanElements children ∧ ident.CleanAttribute ∧ className.CleanAttribute
  | .document first second => first.CleanElement ∧ second.CleanElement

/-- A value that is a clean element. -/
def Value.CleanElement : Value → Prop
  | .node element => element.Clean
  | _ => False

/-- Values in a row that are clean elements. -/
def CleanElements : List Value → Prop
  | [] => True
  | value :: rest => value.CleanElement ∧ CleanElements rest

end

theorem Value.CleanContent.exists_text {content : Value} (h : content.CleanContent) :
    ∃ s, content = .text s ∧ '<' ∉ s.toList := by
  cases content with
  | text s => exact ⟨s, rfl, h⟩
  | _ => exact absurd h (by simp [Value.CleanContent])

theorem Value.CleanAttribute.null_or_text {value : Value} (h : value.CleanAttribute) :
    value = .null ∨ ∃ s, value = .text s ∧ '"' ∉ s.toList := by
  cases value with
  | null => exact .inl rfl
  | text s => exact .inr ⟨s, rfl, h⟩
  | _ => exact absurd h (by simp [Value.CleanAttribute])

theorem Value.CleanElement.exists_node {value : Value} (h : value.CleanElement) :
    ∃ element, value = .node element ∧ element.Clean := by
  cases value with
  | node element => exact ⟨element, rfl, by simpa [Value.CleanElement] using h⟩
  | _ => exact absurd h (by simp [Value.CleanElement])

/-! ### Texts with an end mark -/

/-- A text without a mark ends where the mark first stands. -/
theorem cut_at {mark : Char} {u v s t : List Char} (hu : mark ∉ u) (hv : mark ∉ v)
    (h : u ++ mark :: s = v ++ mark :: t) : u = v ∧ s = t := by
  -- On the first text. The second one ends with it, since neither goes on over the mark.
  induction u generalizing v with
  | nil =>
      cases v with
      | nil => exact ⟨rfl, (List.cons.inj h).2⟩
      | cons c v => exact absurd (List.cons.inj h).1 (fun eq => hv (by simp [eq]))
  | cons c u ih =>
      cases v with
      | nil => exact absurd (List.cons.inj h).1.symm (fun eq => hu (by simp [eq]))
      | cons d v =>
          obtain ⟨hcd, hrest⟩ := List.cons.inj h
          rw [List.mem_cons, not_or] at hu hv
          obtain ⟨huv, hst⟩ := ih hu.2 hv.2 hrest
          exact ⟨by rw [hcd, huv], hst⟩

/-- A clean content ends where the closing tag starts. -/
theorem content_cancel {a b : Value} (ha : a.CleanContent) (hb : b.CleanContent)
    {s t : List Char} (h : a.chars ++ '<' :: s = b.chars ++ '<' :: t) : a = b ∧ s = t := by
  obtain ⟨x, rfl, hx⟩ := ha.exists_text
  obtain ⟨y, rfl, hy⟩ := hb.exists_text
  obtain ⟨hxy, hst⟩ := cut_at hx hy (by simpa using h)
  exact ⟨by rw [String.toList_inj.1 hxy], hst⟩

/-- A clean attribute and what stands behind it can be told apart, if what stands
behind it is not an attribute of the same name. -/
theorem attributeChars_cancel {name : List Char} {a b : Value} (ha : a.CleanAttribute)
    (hb : b.CleanAttribute) {s t : List Char} (hs : ¬ ' ' :: name <+: s)
    (ht : ¬ ' ' :: name <+: t)
    (h : attributeChars name a ++ s = attributeChars name b ++ t) : a = b ∧ s = t := by
  -- Only one of the attributes may be there; then it stands where the other text goes on.
  rcases ha.null_or_text with rfl | ⟨x, rfl, hx⟩
  · rcases hb.null_or_text with rfl | ⟨y, rfl, hy⟩
    · exact ⟨rfl, by simpa [attributeChars] using h⟩
    · refine absurd ?_ hs
      exact ⟨'=' :: '"' :: (y.toList ++ '"' :: t), by simpa [attributeChars] using h.symm⟩
  · rcases hb.null_or_text with rfl | ⟨y, rfl, hy⟩
    · refine absurd ?_ ht
      exact ⟨'=' :: '"' :: (x.toList ++ '"' :: s), by simpa [attributeChars] using h⟩
    · obtain ⟨hxy, hst⟩ := cut_at hx hy (by simpa [attributeChars] using h)
      exact ⟨by rw [String.toList_inj.1 hxy], hst⟩

/-- What stands behind the place of an identifier is no identifier. -/
theorem not_id_prefix_class (className : Value) (rest : List Char) :
    ¬ ' ' :: "id".toList <+: attributeChars "class".toList className ++ '>' :: rest := by
  cases className <;> simp [attributeChars]

/-! ### Opening tags -/

namespace NodeKind

/-- The two characters that tell the kind of an element behind its first bracket. -/
def mark : NodeKind → Char × Char
  | title => ('t', 'i')
  | paragraph => ('p', '>')
  | head => ('h', 'e')
  | body => ('b', 'o')
  | division => ('d', 'i')
  | document => ('h', 't')

theorem mark_injective {a b : NodeKind} (h : a.mark = b.mark) : a = b := by
  revert h
  cases a <;> cases b <;> decide

end NodeKind

theorem Node.exists_chars (node : Node) :
    ∃ rest, node.chars = '<' :: node.kind.mark.1 :: node.kind.mark.2 :: rest := by
  cases node with
  | title content => exact ⟨_, by rw [chars_title]; rfl⟩
  | paragraph content => exact ⟨_, by rw [chars_paragraph]; rfl⟩
  | head inner => exact ⟨_, by rw [chars_head]; rfl⟩
  | body children => exact ⟨_, by rw [chars_body]; rfl⟩
  | division children ident className => exact ⟨_, by rw [chars_division]; rfl⟩
  | document first second => exact ⟨_, by rw [chars_document]; rfl⟩

/-- What an element's text starts with tells its kind. -/
theorem kind_eq_of_chars {a b : Node} {s t : List Char} (h : a.chars ++ s = b.chars ++ t) :
    a.kind = b.kind := by
  obtain ⟨u, hu⟩ := a.exists_chars
  obtain ⟨v, hv⟩ := b.exists_chars
  rw [hu, hv] at h
  simp only [List.cons_append, List.cons.injEq, true_and] at h
  exact NodeKind.mark_injective (Prod.ext h.1 h.2.1)

/-- No element's text starts like a closing tag. -/
theorem chars_ne_closing {value : Value} (clean : value.CleanElement) (s t : List Char) :
    value.chars ++ s ≠ '<' :: '/' :: t := by
  obtain ⟨node, rfl, -⟩ := clean.exists_node
  obtain ⟨u, hu⟩ := node.exists_chars
  intro h
  rw [Value.chars_node, hu] at h
  have hmark : node.kind.mark.1 = '/' := by simp at h; exact h.1
  revert hmark
  cases node.kind <;> decide

/-! ### Decoding -/

mutual

/-- A clean element is determined by its text, which ends where it ends. -/
theorem Node.chars_cancel : ∀ {a b : Node}, a.Clean → b.Clean → ∀ {s t : List Char},
    a.chars ++ s = b.chars ++ t → a = b ∧ s = t
  -- On the first page. Its kind is that of the second one, or the texts differ behind the first
  -- bracket.
  | .title x, b, ha, hb, s, t, h => by
      cases b with
      | title y =>
          rw [Node.Clean] at ha hb
          simp only [chars_title, List.append_assoc, List.append_cancel_left_eq] at h
          obtain ⟨rfl, hst⟩ := content_cancel ha hb h
          exact ⟨rfl, by simpa using hst⟩
      | _ => cases kind_eq_of_chars h
  | .paragraph x, b, ha, hb, s, t, h => by
      cases b with
      | paragraph y =>
          rw [Node.Clean] at ha hb
          simp only [chars_paragraph, List.append_assoc, List.append_cancel_left_eq] at h
          obtain ⟨rfl, hst⟩ := content_cancel ha hb h
          exact ⟨rfl, by simpa using hst⟩
      | _ => cases kind_eq_of_chars h
  | .head x, b, ha, hb, s, t, h => by
      cases b with
      | head y =>
          rw [Node.Clean] at ha hb
          simp only [chars_head, List.append_assoc, List.append_cancel_left_eq] at h
          obtain ⟨rfl, hst⟩ := Value.chars_cancel ha hb h
          exact ⟨rfl, List.append_cancel_left hst⟩
      | _ => cases kind_eq_of_chars h
  | .body xs, b, ha, hb, s, t, h => by
      cases b with
      | body ys =>
          rw [Node.Clean] at ha hb
          simp only [chars_body, List.append_assoc, List.append_cancel_left_eq] at h
          obtain ⟨rfl, hst⟩ := lineChars_cancel ha hb h
          exact ⟨rfl, by simpa using hst⟩
      | _ => cases kind_eq_of_chars h
  | .division xs i c, b, ha, hb, s, t, h => by
      cases b with
      | division ys j d =>
          rw [Node.Clean] at ha hb
          obtain ⟨hxs, hi, hc⟩ := ha
          obtain ⟨hys, hj, hd⟩ := hb
          simp only [chars_division, List.append_assoc, List.cons_append,
            List.append_cancel_left_eq] at h
          -- Behind the identifier stands the class or the end of the tag, never an identifier.
          obtain ⟨rfl, hclass⟩ := attributeChars_cancel hi hj
            (not_id_prefix_class _ _) (not_id_prefix_class _ _) h
          obtain ⟨rfl, hend⟩ := attributeChars_cancel hc hd (by simp) (by simp) hclass
          obtain ⟨rfl, hst⟩ := joinedChars_cancel hxs hys (List.cons.inj hend).2
          exact ⟨rfl, by simpa using hst⟩
      | _ => cases kind_eq_of_chars h
  | .document x x', b, ha, hb, s, t, h => by
      cases b with
      | document y y' =>
          rw [Node.Clean] at ha hb
          simp only [chars_document, List.append_assoc, List.cons_append,
            List.append_cancel_left_eq] at h
          obtain ⟨rfl, hrest⟩ := Value.chars_cancel ha.1 hb.1 h
          obtain ⟨rfl, hst⟩ := Value.chars_cancel ha.2 hb.2 (List.cons.inj hrest).2
          exact ⟨rfl, List.append_cancel_left hst⟩
      | _ => cases kind_eq_of_chars h

theorem Value.chars_cancel : ∀ {a b : Value}, a.CleanElement → b.CleanElement →
    ∀ {s t : List Char}, a.chars ++ s = b.chars ++ t → a = b ∧ s = t
  | .node a, b, ha, hb, s, t, h => by
      obtain ⟨b, rfl, hb⟩ := hb.exists_node
      rw [Value.CleanElement] at ha
      rw [Value.chars_node, Value.chars_node] at h
      obtain ⟨rfl, hst⟩ := Node.chars_cancel ha hb h
      exact ⟨rfl, hst⟩

/-- Children on lines end where a closing tag starts. -/
theorem lineChars_cancel : ∀ {as bs : List Value}, CleanElements as → CleanElements bs →
    ∀ {s t : List Char}, lineChars as ++ '<' :: '/' :: s = lineChars bs ++ '<' :: '/' :: t →
      as = bs ∧ s = t
  | [], [], _, _, s, t, h => by simpa using h
  -- A row that has ended stands before a closing tag, and a child does not look like one.
  | [], b :: bs, _, hb, s, t, h => by
      rw [CleanElements] at hb
      exact absurd (by simpa using h.symm) (chars_ne_closing hb.1 _ _)
  | a :: as, [], ha, _, s, t, h => by
      rw [CleanElements] at ha
      exact absurd (by simpa using h) (chars_ne_closing ha.1 _ _)
  | a :: as, b :: bs, ha, hb, s, t, h => by
      rw [CleanElements] at ha hb
      simp only [lineChars_cons, List.append_assoc] at h
      obtain ⟨rfl, hrest⟩ := Value.chars_cancel ha.1 hb.1 h
      obtain ⟨rfl, hst⟩ := lineChars_cancel ha.2 hb.2 (List.cons.inj hrest).2
      exact ⟨rfl, hst⟩

/-- Joined children end where a closing tag starts. -/
theorem joinedChars_cancel : ∀ {as bs : List Value}, CleanElements as → CleanElements bs →
    ∀ {s t : List Char}, joinedChars as ++ '<' :: '/' :: s = joinedChars bs ++ '<' :: '/' :: t →
      as = bs ∧ s = t
  | [], [], _, _, s, t, h => by simpa using h
  | [], b :: bs, _, hb, s, t, h => by
      rw [CleanElements] at hb
      exact absurd (by simpa using h.symm) (chars_ne_closing hb.1 _ _)
  | a :: as, [], ha, _, s, t, h => by
      rw [CleanElements] at ha
      exact absurd (by simpa using h) (chars_ne_closing ha.1 _ _)
  | a :: as, b :: bs, ha, hb, s, t, h => by
      rw [CleanElements] at ha hb
      simp only [joinedChars_cons, List.append_assoc] at h
      obtain ⟨rfl, hrest⟩ := Value.chars_cancel ha.1 hb.1 h
      obtain ⟨rfl, hst⟩ := restChars_cancel ha.2 hb.2 hrest
      exact ⟨rfl, (List.cons.inj hst).2⟩

/-- Children behind a first one end where a closing tag starts. -/
theorem restChars_cancel : ∀ {as bs : List Value}, CleanElements as → CleanElements bs →
    ∀ {s t : List Char}, restChars as ++ '<' :: s = restChars bs ++ '<' :: t →
      as = bs ∧ s = t
  | [], [], _, _, s, t, h => by simpa using h
  | [], b :: bs, _, _, s, t, h => by simp at h
  | a :: as, [], _, _, s, t, h => by simp at h
  | a :: as, b :: bs, ha, hb, s, t, h => by
      rw [CleanElements] at ha hb
      simp only [restChars_cons, List.cons_append, List.append_assoc] at h
      obtain ⟨rfl, hrest⟩ := Value.chars_cancel ha.1 hb.1 (List.cons.inj h).2
      obtain ⟨rfl, hst⟩ := restChars_cancel ha.2 hb.2 hrest
      exact ⟨rfl, hst⟩

end

/-- The text of a clean page determines the page and where it ends, so different clean
pages have different texts and none is the beginning of another. -/
theorem Node.render_uniquely_decodable {a b : Node} (ha : a.Clean) (hb : b.Clean) :
    (∀ s t : String, a.render ++ s = b.render ++ t → a = b ∧ s = t) ∧
      (a.render = b.render ↔ a = b) ∧
      (a.render.toList <+: b.render.toList → a = b) := by
  have decode : ∀ s t : List Char, a.chars ++ s = b.chars ++ t → a = b ∧ s = t :=
    fun s t => Node.chars_cancel ha hb
  refine ⟨?_, ?_, ?_⟩
  · intro s t h
    obtain ⟨hab, hst⟩ := decode s.toList t.toList (by
      simpa [Node.chars] using congrArg String.toList h)
    exact ⟨hab, String.toList_inj.1 hst⟩
  · refine ⟨fun h => ?_, fun h => by rw [h]⟩
    exact (decode [] [] (by rw [Node.chars, Node.chars, h])).1
  · rintro ⟨s, hs⟩
    exact (decode s [] (by rw [Node.chars, hs, List.append_nil]; rfl)).1

/-- An empty division is not the beginning of one that holds text with line feeds, brackets
and ampersands, an empty body and an empty identifier. -/
theorem Node.render_empty_division :
    (Node.division [] .null .null).Clean ∧
      (Node.division [.node (.paragraph (.text "a > b\n&")), .node (.body [])]
        (.text "") (.text "x<y\n")).Clean ∧
      ¬ (Node.division [] .null .null).render.toList <+:
        (Node.division [.node (.paragraph (.text "a > b\n&")), .node (.body [])]
          (.text "") (.text "x<y\n")).render.toList := by
  have hempty : (Node.division [] .null .null).Clean := by
    simp [Node.Clean, CleanElements, Value.CleanAttribute]
  have hfull : (Node.division [.node (.paragraph (.text "a > b\n&")), .node (.body [])]
      (.text "") (.text "x<y\n")).Clean := by
    simp [Node.Clean, CleanElements, Value.CleanElement, Value.CleanAttribute,
      Value.CleanContent]
  refine ⟨hempty, hfull, fun h => ?_⟩
  have same := (Node.render_uniquely_decodable hempty hfull).2.2 h
  simp at same

end ScopedHtml
