import SlidePress.Proofs.Layout.Splicing
import SlidePress.Proofs.Layout.Stopping
import SlidePress.Proofs.Packaged.Drafts

/-! # List slides

A list slide asks for each of its items to be expanded, in the order of the list, and has the tokens
of the items in its draft (`draft_list`). So what comes of it is the title and a line for each item,
with the item expanded behind its marker, as long as no part of this text looks like a token
(`ending_layOut_list`). -/

namespace SlidePress.Packaged

open Template Schema Requests

/-- What stands in front of the items of a list, by its template. -/
inductive Marks : TemplateDefinition → (Nat → String) → Prop
  | bullets : Marks bulletList fun _ => "- "
  | numbers : Marks numberedList fun i => toString (i + 1) ++ ". "

/-- The text of a list: its title, and a line for each text. -/
def listText (marker : Nat → String) (title : String) (texts : List String) : String :=
  "## " ++ title ++ "\n\n" ++ String.join (texts.mapIdx fun i t => marker i ++ t ++ "\n")

/-- Content with a title and items that are texts. -/
structure IsList (es : Entries) (title : String) (items : List String) : Prop where
  data : (Value.map es).isData = true
  nonempty : items ≠ []
  title : es.get? "title" = some (.str title)
  items : es.get? "items" = some (.list (items.map .str))

variable {t : TemplateDefinition} {marker : Nat → String} {es : Entries} {title : String}
  {items : List String}

/-! ### The draft -/

theorem IsList.conforms (h : IsList es title items) : Conforms (.map listSchema) (.map es) := by
  refine conforms_fields.2 ⟨es, rfl, fun p hp x hx => ?_, fun name hname => ?_⟩
  · obtain ⟨v, hv, rfl, -⟩ := present?_members_eq_some.1 hx
    rcases List.mem_pair.1 hp with rfl | rfl
    · cases h.title.symm.trans hv
      exact conforms_text.2 ⟨title, rfl⟩
    · cases h.items.symm.trans hv
      rw [outOf_texts]
      exact conforms_texts h.nonempty
  · rcases List.mem_pair.1 hname with rfl | rfl
    · exact isSome_present?_members h.title (by simp [Value.outOf])
    · exact isSome_present?_members h.items (by simp [Value.outOf])

/-- The texts are asked for one after the other, each with the token of its number. -/
theorem forEach_askExpand (line : Nat → String → String) (k : Nat) (texts : List String)
    (r : Requests) (hk : r.expands.length = k) :
    forEach (fun i x => do return line i (← askExpand x)) k (texts.map Value.str) r =
      .ok (String.join ((List.range' k texts.length).map fun i => line i (expandToken i)),
        { r with expands := r.expands ++ texts }) := by
  induction texts generalizing k r with
  | nil => simp [forEach, pure, StateT.pure, Except.pure]
  | cons s texts ih =>
    have hrest := ih (k + 1) (r.addExpand s).2 (by simp [hk])
    have hfirst : (do return line k (← askExpand (.str s)) : Talk Requests String) r =
        .ok (line k (expandToken k), (r.addExpand s).2) := by
      rw [← hk]
      rfl
    rw [List.map_cons, forEach, Attempt.bind_run_ok hfirst, Attempt.bind_run_ok hrest, List.length_cons,
      List.range'_succ, List.map_cons, String.join_cons, expands_addExpand, List.append_assoc]
    rfl

theorem mapIdx_range (line : Nat → String → String) (token : Nat → String) (n : Nat) :
    ((List.range n).map token).mapIdx line = (List.range n).map fun i => line i (token i) :=
  List.ext_getElem (by simp) fun i _ _ => by simp

theorem listTalk_eq (h : IsList es title items) :
    listTalk marker es Requests.empty =
      .ok (listText marker title ((List.range items.length).map expandToken), ⟨[], [], items⟩) := by
  have htitle : es.part "title" = .str title := by rw [Entries.part, h.title]; rfl
  have hitems : es.part "items" = .list (items.map .str) := by rw [Entries.part, h.items]; rfl
  have hlines := forEach_askExpand (fun i t => marker i ++ t ++ "\n") 0 items Requests.empty rfl
  rw [listTalk, hitems, htitle, Attempt.bind_run_ok (t := ⟨[], [], items⟩) hlines, listText, mapIdx_range,
    List.range_eq_range']
  rfl

/-- **The draft of a list slide** has a line for each item, with the token of its number. -/
theorem draft_list {press : Press} (hstep : press.templates.InStep) {s : Slide}
    (ht : Marks t marker) (hget : press.templates.get? s.template = some t)
    (h : IsList s.content title items) (place : SlidePlace) :
    press.draft place s =
      .ok (listText marker title ((List.range items.length).map expandToken), ⟨[], [], items⟩) := by
  cases ht with
  | bullets =>
    refine (draft_eq_ok_iff hstep (by simp [definitions]) hget).2 ⟨h.conforms, ?_⟩
    rw [run_of_amountsTo (parse_eq_ok (by simp [trees])) (bulletList_amounts h.data), listTalk_eq h]
    rfl
  | numbers =>
    refine (draft_eq_ok_iff hstep (by simp [definitions]) hget).2 ⟨h.conforms, ?_⟩
    rw [run_of_amountsTo (parse_eq_ok (by simp [trees])) (numberedList_amounts h.data), listTalk_eq h]
    rfl

/-! ### The answers -/

/-- The draft of a list in pieces. -/
def listPieces (marker : Nat → String) (title : String) (r : Requests) : List (Piece (Token r)) :=
  .lit ("## " ++ title ++ "\n\n") :: (List.finRange r.expands.length).flatMap fun i : Fin _ =>
    [.lit (marker i), .token (.expand i), .lit "\n"]

theorem spell_listPieces {r : Requests} (f : Token r → List Char) :
    String.ofList (Piece.spell f (listPieces marker title r)) =
      listText marker title ((List.finRange r.expands.length).map fun i =>
        String.ofList (f (.expand i))) := by
  have hlines : ((List.finRange r.expands.length).map fun i => String.ofList (f (.expand i))).mapIdx
      (fun i t => marker i ++ t ++ "\n") =
      (List.finRange r.expands.length).map fun i : Fin _ =>
        marker i ++ String.ofList (f (.expand i)) ++ "\n" :=
    List.ext_getElem (by simp) fun i _ _ => by simp
  refine String.toList_inj.1 ?_
  rw [listText, hlines, listPieces, Piece.spell_lit, Piece.spell_flatMap]
  simp [String.toList_join, List.flatMap_map]

/-- Answers to requests for texts to be expanded: these texts. -/
def expandedAs (r : Requests) (texts : List String) : Answers r where
  icon _ := ""
  cite _ := []
  expand i := [.lit (texts.getD i "")]

/-- Texts in place of the tokens of a list. -/
theorem fill_listText {texts : List String} (hlength : texts.length = items.length)
    (hmarker : ¬ Requests.marker <:+: (listText marker title texts).toList) :
    fill [] [] texts (listText marker title ((List.range items.length).map expandToken)) =
      listText marker title texts := by
  let r : Requests := ⟨[], [], items⟩
  let a := expandedAs r texts
  have hanswers : (Token.ofKind r .expand).map (fun t => Requests.written (a.answer t)) = texts :=
    List.ext_getElem (by simp [Token.ofKind, r, hlength]) fun i hi hi' => by
      simp [Token.ofKind, a, expandedAs, Answers.answer, Requests.written, Piece.map,
        List.getElem?_eq_getElem hi']
  have hspliced : a.spliced (listPieces marker title r) = listText marker title texts := by
    rw [Answers.spliced, spell_listPieces]
    congr 1
    exact List.ext_getElem (by simp [r, hlength]) fun i hi hi' => by
      simp [a, expandedAs, Answers.meant, List.getElem?_eq_getElem hi']
  have hwritten : Requests.written (listPieces marker title r) =
      listText marker title ((List.range items.length).map expandToken) := by
    rw [Requests.written, spell_listPieces]
    congr 1
    exact List.ext_getElem (by simp [r]) fun i hi hi' => by
      simp [tok, token, Token.key]
  have hfill := a.fill_written (listPieces marker title r) (hspliced ▸ hmarker)
  rw [hanswers, hspliced, hwritten] at hfill
  exact hfill

/-! ### The slide -/

section

variable {templates : Registry} {icon : IconRequest → Ending IconError String} {style : CitationStyle}
  {source : ReferenceSource}

/-- What a question about references comes to for a slide. -/
def answerOf : Lookup String → Ending SlideError String
  | .ok text => .ok text
  | .error e => .error (.failed (.reference e))

theorem answer_expand (s : String) : (Press.of templates icon style source).answer (.expand s) =
    answerOf (style.expand source s) := by
  show Except.mapError _ (Ending.ofExcept (style.expand source s)) = _
  cases style.expand source s <;> rfl

/-- Where every item can be expanded, the expanded items take the places of their tokens. -/
theorem ending_resolve_list {texts : List String} (htexts : items.mapM (style.expand source) = .ok texts)
    (hmarker : ¬ Requests.marker <:+: (listText marker title texts).toList) (pace : Pace) :
    (Requests.resolve (Press.of templates icon style source) pace ⟨[], [], items⟩
      (listText marker title ((List.range items.length).map expandToken))).ending =
      .ok (listText marker title texts) := by
  have hcalls : (items.map Call.expand).map (Press.of templates icon style source).answer =
      texts.map Except.ok := by
    rw [List.map_map]
    calc items.map (fun x => (Press.of templates icon style source).answer (.expand x))
      _ = (items.map (style.expand source)).map answerOf := by
        rw [List.map_map]
        exact List.map_congr_left fun x _ => answer_expand x
      _ = texts.map Except.ok := by
        rw [Attempt.mapM_eq_ok_iff_map.1 htexts, List.map_map]
        rfl
  obtain ⟨hanswers, hmap⟩ := Press.map_answer_eq_ok.1 hcalls
  have hlength : texts.length = items.length := by rw [hmap]; simp
  refine Press.ending_resolve_eq_ok.2 ⟨hanswers, ?_⟩
  rw [← fill_listText hlength hmarker]
  exact congrArg (fun answers => fill [] [] answers _) hmap

/-- Where an item cannot be expanded, the error is that of such an item. -/
theorem exists_ending_resolve_list {e : ReferenceError}
    (he : items.mapM (style.expand source) = .error e) (pace : Pace) (draft : String) :
    ∃ x ∈ items, ∃ e', style.expand source x = .error e' ∧
      (Requests.resolve (Press.of templates icon style source) pace ⟨[], [], items⟩ draft).ending =
        .error (.failed (.reference e')) := by
  obtain ⟨x, hx, hxe⟩ := Attempt.exists_of_mapM_eq_error he
  cases hresolve : (Requests.resolve (Press.of templates icon style source) pace ⟨[], [], items⟩
    draft).ending with
  | ok text =>
    obtain ⟨answer, hanswer⟩ := (Press.ending_resolve_eq_ok.1 hresolve).1 (.expand x)
      (List.mem_map_of_mem hx)
    rw [answer_expand, hxe] at hanswer
    cases hanswer
  | error halt =>
    obtain ⟨c, hc, hce⟩ := Press.exists_of_resolve_eq_error hresolve
    obtain ⟨y, hy, rfl⟩ : ∃ y ∈ items, Call.expand y = c := List.mem_map.1 hc
    rw [answer_expand] at hce
    cases hye : style.expand source y with
    | ok text =>
      rw [hye] at hce
      cases hce
    | error e' =>
      rw [hye] at hce
      cases hce
      exact ⟨y, hy, e', hye, rfl⟩

/-- **List slides.** A slide with one of the templates for lists, without a class, comes out as its
title and a line for each item in order: the marker and the item with its citations expanded. This
holds if no part of that text looks like a token and every item can be expanded; if an item cannot, the
slide fails with the error of such an item. -/
theorem ending_layOut_list (hstep : templates.InStep) {s : Slide} (hraw : s.isRaw = false)
    (hclass : s.cssClass.getD "" = "") (ht : Marks t marker)
    (hget : templates.get? s.template = some t) (h : IsList s.content title items) (pace : Pace)
    (place : SlidePlace) :
    (∀ texts, items.mapM (style.expand source) = .ok texts →
      ¬ "_PLACEHOLDER_".toList <:+: (listText marker title texts).toList →
      ((Press.of templates icon style source).layOut pace place s).ending =
        .ok (Text.strip (listText marker title texts))) ∧
    ∀ e, items.mapM (style.expand source) = .error e →
      ∃ x ∈ items, ∃ e', style.expand source x = .error e' ∧
        ((Press.of templates icon style source).layOut pace place s).ending =
          .error (.failed (.reference e')) := by
  have hdraft : (Press.of templates icon style source).draft place s = _ :=
    draft_list hstep ht hget h place
  have hends : ((Press.of templates icon style source).layOut pace place s).ending = _ :=
    Press.ending_layOut_of_draft (by simp [hraw]) hdraft
  constructor
  · intro texts htexts hmarker
    rw [hends, ending_resolve_list htexts hmarker]
    refine congrArg Except.ok ?_
    rw [Press.finished, hclass]
    rfl
  · intro e he
    obtain ⟨x, hx, e', hxe, hresolve⟩ := exists_ending_resolve_list he pace
      (listText marker title ((List.range items.length).map expandToken))
    exact ⟨x, hx, e', hxe, by rw [hends, hresolve]; rfl⟩

end

/-- A shelf with one reference. -/
def oneBook : Shelf := ⟨Entries.ofNames [("doe", .map (Entries.ofNames [("id", .str "doe"),
  ("author", .list [.map (Entries.ofNames [("family", .str "Doe")])])]))]⟩

/-- More items than there are digits, one of which cites the reference. -/
def countItems : List String :=
  ["a", "b", "see [@doe]", "d", "e", "f", "g", "h", "i", "j", "k [@roe; @doe]"]

/-- A slide with these items. -/
def countSlide : Slide :=
  ⟨"numbered-list", Entries.ofNames [("title", .str "Steps"), ("items", .list (countItems.map .str))],
    none, none, none⟩

theorem ending_layOut_countSlide :
    ((Press.of (register Registry.empty).1 (fun _ => .error .endless) .default
      oneBook.source).layOut Pace.even ⟨⟨"T", none, none, defaultTheme, none⟩, 0, 1⟩ countSlide).ending =
      .ok ("## Steps\n\n1. a\n2. b\n3. see (Doe, 0)\n4. d\n5. e\n6. f\n7. g\n8. h\n9. i\n10. j\n" ++
        "11. k [roe], (Doe, 0)") := by
  have htexts : countItems.mapM (CitationStyle.default.expand oneBook.source) =
      .ok ["a", "b", "see (Doe, 0)", "d", "e", "f", "g", "h", "i", "j", "k [roe], (Doe, 0)"] := by
    decide +kernel
  have hlist : IsList countSlide.content "Steps" countItems := ⟨by decide, by decide, rfl, rfl⟩
  have hget := get?_register_empty (d := numberedList) (by simp [definitions])
  have hends : ((Press.of (register Registry.empty).1 (fun _ => .error .endless) .default
      oneBook.source).layOut Pace.even ⟨⟨"T", none, none, defaultTheme, none⟩, 0, 1⟩
        countSlide).ending = _ :=
    (ending_layOut_list inStep_register_empty rfl rfl .numbers hget hlist Pace.even
      ⟨⟨"T", none, none, defaultTheme, none⟩, 0, 1⟩).1 _ htexts (by decide +kernel)
  exact hends.trans (congrArg Except.ok (by decide +kernel))

end SlidePress.Packaged
