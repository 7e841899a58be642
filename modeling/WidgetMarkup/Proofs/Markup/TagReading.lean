import Mathlib.Data.List.TakeWhile
import WidgetMarkup.Proofs.Markup.Grammar
import WidgetMarkup.Proofs.Text.Blank

/-!
# Reading tags

Start tags and end tags are read exactly as the grammar writes them. For each reader there are two
statements: what is written is read, whatever follows it, and what has been read is written there.

A reader may take the blanks after a flag with the flag, while the grammar leaves them to what comes
next; the texts on both sides are then equal up to blanks at their start, and reading on does not see
the difference.
-/
namespace WidgetMarkup.Markup

open Text

theorem isNameChar_of_isBlank {c : Char} (h : isBlank c = true) : isNameChar c = false := by
  have hne : ∀ d, isBlank d = false → c ≠ d := by
    rintro d hd rfl
    rw [h] at hd
    cases hd
  simp [isNameChar, isWordChar_of_isBlank h, hne '.' (by decide), hne '-' (by decide),
    hne ':' (by decide)]

theorem isAttributeChar_iff {c : Char} : isAttributeChar c = true ↔
    isBlank c = false ∧ c ≠ '=' ∧ c ≠ '/' ∧ c ≠ '>' ∧ c ≠ '"' ∧ c ≠ '\'' ∧ c ≠ '<' := by
  simp [isAttributeChar, and_assoc]

theorem isBareChar_iff {c : Char} : isBareChar c = true ↔
    isBlank c = false ∧ c ≠ '>' ∧ c ≠ '"' ∧ c ≠ '\'' ∧ c ≠ '<' ∧ c ≠ '=' ∧ c ≠ '\x60' := by
  simp [isBareChar, and_assoc]

theorem isBlank_of_isNameStart {c : Char} (h : isNameStart c = true) : isBlank c = false := by
  have hn : 0x41 ≤ c.toNat ∧ c.toNat ≤ 0x7a := by
    rcases Bool.or_eq_true_iff.1 h with h | h
    · rcases Bool.or_eq_true_iff.1 h with h | h
      · have hupper : 'A'.val ≤ c.val ∧ c.val ≤ 'Z'.val := of_decide_eq_true h
        exact ⟨hupper.1, Nat.le_trans hupper.2 (by decide)⟩
      · have hlower : 'a'.val ≤ c.val ∧ c.val ≤ 'z'.val :=
          (Bool.and_eq_true_iff.1 h).imp of_decide_eq_true of_decide_eq_true
        exact ⟨Nat.le_trans (by decide) hlower.1, hlower.2⟩
    · rw [beq_iff_eq.1 h]
      decide
  rw [Bool.eq_false_iff]
  intro hb
  simp only [isBlank, Bool.or_eq_true, Bool.and_eq_true, decide_eq_true_eq, beq_iff_eq] at hb
  omega

theorem stops_nil (p : Char → Bool) : Stops p [] := by
  intro c hc
  cases hc

theorem stops_cons {p : Char → Bool} {c : Char} {s : List Char} :
    Stops p (c :: s) ↔ p c = false := by
  simp [Stops]

theorem takeWhile_run {p : Char → Bool} {u t : List Char} (hu : ∀ c ∈ u, p c = true)
    (ht : Stops p t) : (u ++ t).takeWhile p = u := by
  rw [List.takeWhile_append_of_pos hu]
  cases t with
  | nil => simp
  | cons c t => simp [ht c rfl]

theorem dropWhile_run {p : Char → Bool} {u t : List Char} (hu : ∀ c ∈ u, p c = true)
    (ht : Stops p t) : (u ++ t).dropWhile p = t := by
  rw [List.dropWhile_append_of_pos hu]
  cases t with
  | nil => rfl
  | cons c t => simp [ht c rfl]

theorem stops_dropWhile (p : Char → Bool) (s : List Char) : Stops p (s.dropWhile p) := by
  intro c hc
  have h := List.head?_dropWhile_not p s
  rw [Option.mem_def.1 hc] at h
  simpa using h

theorem skipBlank_run {b t : List Char} (hb : AllBlank b) (ht : Stops isBlank t) :
    skipBlank (b ++ t) = t :=
  dropWhile_run hb ht

theorem exists_blank (s : List Char) :
    ∃ b, AllBlank b ∧ s = b ++ skipBlank s ∧ Stops isBlank (skipBlank s) :=
  ⟨s.takeWhile isBlank, fun _ hc => List.mem_takeWhile_imp hc,
    List.takeWhile_append_dropWhile.symm, stops_dropWhile isBlank s⟩

theorem readValue_cases {name s value rest : List Char}
    (h : readValue name s = .ok (value, rest)) :
    (∃ q, IsQuote q ∧ q ∉ value ∧ s = q :: (value ++ q :: rest)) ∨
      ((∀ c ∈ value, isBareChar c = true) ∧ BareEnd value rest ∧ s = value ++ rest) := by
  unfold readValue at h
  split at h
  · cases h
  · rename_i q t
    split at h
    · rename_i hq
      split at h
      · cases h
      · rename_i d rest' hd
        cases h
        left
        have hsplit := List.takeWhile_append_dropWhile (p := (· ≠ q)) (l := t)
        have hstop := stops_dropWhile (· ≠ q) t
        rw [hd, stops_cons] at hstop
        have hdq : d = q := by simpa using hstop
        refine ⟨q, hq, fun hmem => ?_, ?_⟩
        · simpa using List.mem_takeWhile_imp hmem
        · rw [hd, hdq] at hsplit
          rw [hsplit]
    · dsimp only at h
      have hsplit := List.takeWhile_append_dropWhile (p := isBareChar) (l := q :: t)
      have hbare : ∀ c ∈ (q :: t).takeWhile isBareChar, isBareChar c = true :=
        fun _ hc => List.mem_takeWhile_imp hc
      have hstop := stops_dropWhile isBareChar (q :: t)
      split at h
      · cases h
      · rename_i hne
        right
        split at h
        · rename_i hslash
          obtain ⟨v, hv⟩ := List.getLast?_eq_some_iff.1 hslash.1
          obtain ⟨u, hu⟩ := List.head?_eq_some_iff.1 hslash.2
          rw [hv, hu, List.dropLast_concat] at h
          cases h
          rw [hv] at hbare
          refine ⟨fun c hc => hbare c (List.mem_append_left _ hc), Or.inr ⟨u, rfl⟩, ?_⟩
          rw [List.append_cons, ← hv, ← hu, hsplit]
        · rename_i hslash
          cases h
          exact ⟨hbare, Or.inl ⟨hne, hstop, hslash⟩, hsplit.symm⟩

theorem readValue_quoted {name value rest : List Char} {q : Char} (hq : IsQuote q)
    (hv : q ∉ value) : readValue name (q :: (value ++ q :: rest)) = .ok (value, rest) := by
  have hne : ∀ c ∈ value, decide (c ≠ q) = true := by
    intro c hc
    simp only [decide_eq_true_eq]
    rintro rfl
    exact hv hc
  have hstop : Stops (fun c => decide (c ≠ q)) (q :: rest) := by simp [stops_cons]
  rw [readValue, if_pos (by exact hq), dropWhile_run hne hstop, takeWhile_run hne hstop]

theorem readValue_bare {name value rest : List Char} (hv : ∀ c ∈ value, isBareChar c = true)
    (he : BareEnd value rest) : readValue name (value ++ rest) = .ok (value, rest) := by
  rcases he with ⟨hne, hstop, hslash⟩ | ⟨t, rfl⟩
  · obtain ⟨c, v, rfl⟩ := List.exists_cons_of_ne_nil hne
    have hc := isBareChar_iff.1 (hv c (by simp))
    rw [List.cons_append, readValue, if_neg (by simp [hc.2.2.1, hc.2.2.2.1]), ← List.cons_append,
      takeWhile_run hv hstop, dropWhile_run hv hstop, if_neg hne, if_neg hslash]
  · have hv' : ∀ c ∈ value ++ ['/'], isBareChar c = true := by
      intro c hc
      rcases List.mem_append.1 hc with hc | hc
      · exact hv c hc
      · rw [List.mem_singleton.1 hc]
        decide
    have hstop : Stops isBareChar ('>' :: t) := stops_cons.2 (by decide)
    rw [List.append_cons]
    obtain ⟨c, v, hcv⟩ := List.exists_cons_of_ne_nil (l := value ++ ['/']) (by simp)
    have hc := isBareChar_iff.1 (hv' c (by simp [hcv]))
    rw [hcv, List.cons_append, readValue, if_neg (by simp [hc.2.2.1, hc.2.2.2.1]),
      ← List.cons_append, ← hcv, takeWhile_run hv' hstop, dropWhile_run hv' hstop,
      if_neg (by simp), if_pos (by simp)]
    simp


theorem IsAttributeName.stops {name : List Char} (h : IsAttributeName name) (rest : List Char) :
    Stops isBlank (name ++ rest) := by
  obtain ⟨c, t, rfl⟩ := List.exists_cons_of_ne_nil h.1
  exact stops_cons.2 (isAttributeChar_iff.1 (h.2 c (by simp))).1

theorem stops_isAttributeChar_blank {b t : List Char} (hb : AllBlank b)
    (ht : Stops isAttributeChar t) : Stops isAttributeChar (b ++ t) := by
  cases b with
  | nil => exact ht
  | cons c b =>
    rw [List.cons_append, stops_cons, Bool.eq_false_iff]
    intro hc
    have hblank := hb c (by simp)
    rw [(isAttributeChar_iff.1 hc).1] at hblank
    cases hblank

theorem readAttribute_name {name t : List Char} (hn : IsAttributeName name)
    (ht : Stops isAttributeChar t) :
    readAttribute (name ++ t) =
      (match skipBlank t with
      | [] => .ok ((String.ofList name, String.ofList name), [])
      | c :: r =>
        if c = '=' then do
          let (value, rest) ← readValue name (skipBlank r)
          pure ((String.ofList name, String.ofList value), rest)
        else .ok ((String.ofList name, String.ofList name), c :: r)) := by
  unfold readAttribute
  dsimp only
  rw [takeWhile_run hn.2 ht, dropWhile_run hn.2 ht, if_neg hn.1]
  split <;> rename_i h <;> rw [h]

theorem readAttribute_value {name b₁ b₂ v value rest : List Char} (hn : IsAttributeName name)
    (hb₁ : AllBlank b₁) (hb₂ : AllBlank b₂) (hv : Stops isBlank v)
    (h : readValue name v = .ok (value, rest)) :
    readAttribute (name ++ (b₁ ++ '=' :: (b₂ ++ v))) =
      .ok ((String.ofList name, String.ofList value), rest) := by
  have hstop : Stops isAttributeChar (b₁ ++ '=' :: (b₂ ++ v)) :=
    stops_isAttributeChar_blank hb₁ (stops_cons.2 (by decide))
  rw [readAttribute_name hn hstop, skipBlank_run hb₁ (stops_cons.2 (by decide))]
  dsimp only
  rw [if_pos rfl, skipBlank_run hb₂ hv, h]
  rfl

/-- An attribute is read as it is written; blanks after a flag may be taken with it. -/
theorem AttributeWritten.read {a : String × String} {u t : List Char}
    (h : AttributeWritten a u t) :
    ∃ r, readAttribute (u ++ t) = .ok (a, r) ∧ skipBlank r = skipBlank t := by
  cases h with
  | flag hn hstop heq =>
    refine ⟨skipBlank t, ?_, ?_⟩
    · rw [readAttribute_name hn hstop]
      cases hs : skipBlank t with
      | nil => rfl
      | cons c r =>
        rw [hs, stops_cons] at heq
        simp only [beq_eq_false_iff_ne] at heq
        simp only [heq, if_false]
    · have := skipBlank_run (b := []) (by simp [AllBlank]) (stops_dropWhile isBlank t)
      exact this
  | quoted hn hb₁ hb₂ hq hv =>
    rename_i name b₁ b₂ value q
    have hstop : Stops isBlank (q :: (value ++ q :: t)) := by
      rcases hq with rfl | rfl <;> exact stops_cons.2 (by decide)
    refine ⟨t, ?_, rfl⟩
    have := readAttribute_value hn hb₁ hb₂ hstop (readValue_quoted hq hv)
    simpa using this
  | bare hn hb₁ hb₂ hv he =>
    rename_i name b₁ b₂ value
    refine ⟨t, ?_, rfl⟩
    have hstop : Stops isBlank (value ++ t) := by
      cases value with
      | nil =>
        rcases he with he | ⟨r, rfl⟩
        · exact absurd rfl he.1
        · exact stops_cons.2 (by decide)
      | cons c v => exact stops_cons.2 (isBareChar_iff.1 (hv c (by simp))).1
    have := readAttribute_value hn hb₁ hb₂ hstop (readValue_bare hv he)
    simpa using this

theorem readAttribute_written {s r : List Char} {a : String × String}
    (h : readAttribute s = .ok (a, r)) :
    ∃ u b, AllBlank b ∧ s = u ++ (b ++ r) ∧ AttributeWritten a u (b ++ r) := by
  have hsplit := List.takeWhile_append_dropWhile (p := isAttributeChar) (l := s)
  have hstop := stops_dropWhile isAttributeChar s
  by_cases hname : s.takeWhile isAttributeChar = []
  · unfold readAttribute at h
    dsimp only at h
    rw [if_pos hname] at h
    split at h <;> cases h
  · have hn : IsAttributeName (s.takeWhile isAttributeChar) :=
      ⟨hname, fun _ hc => List.mem_takeWhile_imp hc⟩
    generalize s.takeWhile isAttributeChar = name at hn hsplit
    generalize s.dropWhile isAttributeChar = t at hstop hsplit
    subst hsplit
    rw [readAttribute_name hn hstop] at h
    obtain ⟨b, hb, hbt, hblank⟩ := exists_blank t
    cases hs : skipBlank t with
    | nil =>
      rw [hs] at h hbt
      cases h
      refine ⟨name, b, hb, by rw [hbt], ?_⟩
      rw [← hbt]
      exact .flag hn hstop (by rw [hs]; exact stops_nil _)
    | cons c t' =>
      rw [hs] at h hbt
      dsimp only at h
      split at h
      · rename_i hc
        subst hc
        obtain ⟨b₂, hb₂, ht', _⟩ := exists_blank t'
        cases hv : readValue name (skipBlank t') with
        | error e => rw [hv] at h; cases h
        | ok p =>
          obtain ⟨value, rest⟩ := p
          rw [hv] at h
          cases h
          rcases readValue_cases hv with ⟨q, hq, hmem, hvs⟩ | ⟨hbare, hend, hvs⟩
          · refine ⟨_, [], by simp [AllBlank], ?_, .quoted hn hb hb₂ hq hmem⟩
            rw [hbt, ht', hvs]
            simp
          · refine ⟨_, [], by simp [AllBlank], ?_, .bare hn hb hb₂ hbare hend⟩
            rw [hbt, ht', hvs]
            simp
      · rename_i hc
        cases h
        refine ⟨name, b, hb, by rw [hbt], ?_⟩
        rw [← hbt]
        exact .flag hn hstop (by rw [hs]; exact stops_cons.2 (by simpa using hc))

theorem TagBody.ends {as : List (String × String)} {slash : Bool} {t : List Char}
    (h : TagBody as slash t) : ∃ x, t = x ++ ['>'] := by
  induction h with
  | @plain b _ => exact ⟨b, rfl⟩
  | @slash b _ => exact ⟨b ++ ['/'], by simp⟩
  | @more b u _ _ _ _ _ _ _ ih =>
    obtain ⟨x, rfl⟩ := ih
    exact ⟨b ++ (u ++ x), by simp⟩

theorem stops_append {p : Char → Bool} {t rest : List Char} (ht : t ≠ []) :
    Stops p (t ++ rest) ↔ Stops p t := by
  obtain ⟨c, t, rfl⟩ := List.exists_cons_of_ne_nil ht
  rw [List.cons_append, stops_cons, stops_cons]

/-- Blanks at the start of a text that ends a tag are not all of it. -/
theorem skipBlank_ends (x rest : List Char) :
    skipBlank (x ++ ['>']) ≠ [] ∧
      skipBlank (x ++ ['>'] ++ rest) = skipBlank (x ++ ['>']) ++ rest := by
  induction x with
  | nil => exact ⟨by decide, rfl⟩
  | cons c x ih =>
    simp only [skipBlank, List.cons_append, List.dropWhile_cons] at ih ⊢
    split
    · exact ih
    · exact ⟨by simp, rfl⟩

theorem bareEnd_append {value x rest : List Char} :
    BareEnd value (x ++ ['>'] ++ rest) ↔ BareEnd value (x ++ ['>']) := by
  have hne : x ++ ['>'] ≠ [] := by simp
  have hhead : (x ++ ['>'] ++ rest).head? = (x ++ ['>']).head? := by cases x <;> rfl
  unfold BareEnd
  rw [stops_append hne, hhead]
  refine or_congr Iff.rfl ⟨?_, ?_⟩
  · rintro ⟨t, ht⟩
    match x, ht with
    | [], ht => simp at ht
    | [c], ht => exact ⟨[], by simp_all⟩
    | c :: d :: y, ht => exact ⟨y ++ ['>'], by simp_all⟩
  · rintro ⟨t, ht⟩
    exact ⟨t ++ rest, by rw [ht]; rfl⟩

/-- How an attribute is written does not depend on what comes after the tag. -/
theorem attributeWritten_append {a : String × String} {u x rest : List Char} :
    AttributeWritten a u (x ++ ['>'] ++ rest) ↔ AttributeWritten a u (x ++ ['>']) := by
  have hne : x ++ ['>'] ≠ [] := by simp
  constructor
  · intro h
    cases h with
    | flag hn hstop heq =>
      rw [(skipBlank_ends x rest).2, stops_append (skipBlank_ends x rest).1] at heq
      exact .flag hn ((stops_append hne).1 hstop) heq
    | quoted hn hb₁ hb₂ hq hv => exact .quoted hn hb₁ hb₂ hq hv
    | bare hn hb₁ hb₂ hv he => exact .bare hn hb₁ hb₂ hv (bareEnd_append.1 he)
  · intro h
    cases h with
    | flag hn hstop heq =>
      rw [← stops_append (skipBlank_ends x rest).1, ← (skipBlank_ends x rest).2] at heq
      exact .flag hn ((stops_append hne).2 hstop) heq
    | quoted hn hb₁ hb₂ hq hv => exact .quoted hn hb₁ hb₂ hq hv
    | bare hn hb₁ hb₂ hv he => exact .bare hn hb₁ hb₂ hv (bareEnd_append.2 he)

theorem AttributeWritten.name {a : String × String} {u t : List Char}
    (h : AttributeWritten a u t) : ∃ name v, IsAttributeName name ∧ u = name ++ v := by
  cases h with
  | flag hn => exact ⟨u, [], hn, by simp⟩
  | quoted hn => exact ⟨_, _, hn, rfl⟩
  | bare hn => exact ⟨_, _, hn, rfl⟩

theorem readAttributes_eq (start : List Char) (name : String) (s : List Char) :
    readAttributes start name s =
      (match skipBlank s with
      | [] => .error (.fault ⟨.unterminatedTag name, start, []⟩)
      | c :: t =>
        if c = '>' then .ok ([], false, t)
        else if c = '/' ∧ t.head? = some '>' then .ok ([], true, t.tail)
        else
          match readAttribute (c :: t) with
          | .error e => .error e
          | .ok (a, rest) => do
            let (as, slash, rest) ← readAttributes start name rest
            pure (a :: as, slash, rest)) := by
  rw [readAttributes]
  split <;> rename_i h <;> rw [h]
  dsimp only
  split
  · rfl
  · split
    · rfl
    · split <;> rename_i h <;> rw [h]

theorem readAttributes_congr {start s t : List Char} {name : String}
    (h : skipBlank s = skipBlank t) :
    readAttributes start name s = readAttributes start name t := by
  rw [readAttributes_eq, readAttributes_eq start name t, h]

theorem TagBody.read {start rest t : List Char} {name : String} {as : List (String × String)}
    {slash : Bool} (h : TagBody as slash t) :
    readAttributes start name (t ++ rest) = .ok (as, slash, rest) := by
  induction h with
  | @plain b hb =>
    rw [readAttributes_eq, List.append_assoc, List.singleton_append,
      skipBlank_run hb (stops_cons.2 (by decide))]
    simp
  | @slash b hb =>
    rw [readAttributes_eq, List.append_assoc, List.cons_append, List.singleton_append,
      skipBlank_run hb (stops_cons.2 (by decide))]
    simp
  | @more b u t a as slash hb ha ht ih =>
    obtain ⟨x, rfl⟩ := ht.ends
    obtain ⟨n, v, hn, rfl⟩ := ha.name
    have ha' : AttributeWritten a (n ++ v) (x ++ ['>'] ++ rest) := attributeWritten_append.2 ha
    obtain ⟨r, hr, hskip⟩ := ha'.read
    rw [← readAttributes_congr hskip] at ih
    obtain ⟨c, n, rfl⟩ := List.exists_cons_of_ne_nil hn.1
    have hc := isAttributeChar_iff.1 (hn.2 c (by simp))
    have hs : skipBlank (b ++ (c :: n ++ v ++ (x ++ ['>'])) ++ rest) =
        c :: n ++ v ++ (x ++ ['>'] ++ rest) := by
      simp only [List.append_assoc]
      exact skipBlank_run hb (hn.stops _)
    rw [readAttributes_eq, hs]
    simp only [List.cons_append] at hr ⊢
    rw [if_neg hc.2.2.2.1, if_neg (by simp [hc.2.2.1]), hr]
    dsimp only
    rw [ih]
    rfl

theorem TagBody.blank_append {as : List (String × String)} {slash : Bool} {b t : List Char}
    (hb : AllBlank b) (h : TagBody as slash t) : TagBody as slash (b ++ t) := by
  have happend : ∀ {b'}, AllBlank b' → AllBlank (b ++ b') := by
    intro b' hb' c hc
    rcases List.mem_append.1 hc with hc | hc
    · exact hb c hc
    · exact hb' c hc
  cases h with
  | plain hb' =>
    rw [← List.append_assoc]
    exact .plain (happend hb')
  | slash hb' =>
    rw [← List.append_assoc]
    exact .slash (happend hb')
  | more hb' ha ht =>
    rw [← List.append_assoc]
    exact .more (happend hb') ha ht

theorem readAttributes_written {start s rest : List Char} {name : String}
    {as : List (String × String)} {slash : Bool}
    (h : readAttributes start name s = .ok (as, slash, rest)) :
    ∃ t, s = t ++ rest ∧ TagBody as slash t := by
  fun_induction readAttributes start name s generalizing as slash rest with
  | case1 => cases h
  | case2 s t hs =>
    cases h
    obtain ⟨b, hb, hsb, -⟩ := exists_blank s
    exact ⟨b ++ ['>'], by rw [hsb, hs]; simp, .plain hb⟩
  | case3 s c t hs hc hslash =>
    cases h
    obtain ⟨b, hb, hsb, -⟩ := exists_blank s
    obtain ⟨rfl, ht⟩ := hslash
    obtain ⟨t', rfl⟩ := List.head?_eq_some_iff.1 ht
    exact ⟨b ++ ['/', '>'], by rw [hsb, hs]; simp, .slash hb⟩
  | case4 => cases h
  | case5 s c t hs hc hslash a r ha ih =>
    cases hr : readAttributes start name r with
    | error e => rw [hr] at h; cases h
    | ok p =>
      rw [hr] at h
      cases h
      obtain ⟨t', rfl, hbody⟩ := ih hr
      obtain ⟨b, hb, hsb, -⟩ := exists_blank s
      obtain ⟨u, b', hb', hct, hwritten⟩ := readAttribute_written ha
      obtain ⟨x, hx⟩ := (hbody.blank_append hb').ends
      rw [← List.append_assoc, hx] at hwritten
      refine ⟨b ++ (u ++ (b' ++ t')), ?_, .more hb ?_ (hbody.blank_append hb')⟩
      · rw [hsb, hs, hct]
        simp
      · rw [hx]
        exact attributeWritten_append.1 hwritten

theorem tagName?_run {name rest : List Char} (hn : IsTagName name) (hrest : Stops isNameChar rest) :
    tagName? (name ++ rest) = some (name, rest) := by
  obtain ⟨c, t, rfl, hc, ht⟩ := hn
  rw [List.cons_append, tagName?, if_pos hc, takeWhile_run ht hrest, dropWhile_run ht hrest]

theorem tagName?_written {s name rest : List Char} (h : tagName? s = some (name, rest)) :
    s = name ++ rest ∧ IsTagName name ∧ Stops isNameChar rest := by
  unfold tagName? at h
  split at h
  · cases h
  · rename_i c t
    split at h
    · rename_i hc
      cases h
      refine ⟨?_, ⟨c, _, rfl, hc, fun _ hd => List.mem_takeWhile_imp hd⟩, stops_dropWhile _ t⟩
      rw [List.cons_append, List.takeWhile_append_dropWhile]
    · cases h

theorem IsTagName.stops {name : List Char} (h : IsTagName name) (rest : List Char) :
    Stops isBlank (name ++ rest) := by
  obtain ⟨c, t, rfl, hc, -⟩ := h
  exact stops_cons.2 (isBlank_of_isNameStart hc)

theorem readStartTag_run {name body : List Char} {as : List (String × String)} {slash : Bool}
    (hn : IsTagName name) (hstop : Stops isNameChar body) (hbody : TagBody as slash body)
    (rest : List Char) :
    readStartTag ('<' :: (name ++ (body ++ rest))) =
      .ok (⟨String.ofList name, as, slash || isVoid (String.ofList name)⟩, rest) := by
  have hne : body ≠ [] := by
    obtain ⟨x, rfl⟩ := hbody.ends
    simp
  rw [readStartTag, List.drop_succ_cons, List.drop_zero,
    tagName?_run hn ((stops_append hne).2 hstop)]
  dsimp only
  rw [hbody.read]
  rfl

theorem readStartTag_written {s rest : List Char} {tag : WrittenTag}
    (h : readStartTag ('<' :: s) = .ok (tag, rest)) :
    ∃ name body as slash, s = name ++ (body ++ rest) ∧ IsTagName name ∧ Stops isNameChar body ∧
      TagBody as slash body ∧
      tag = ⟨String.ofList name, as, slash || isVoid (String.ofList name)⟩ := by
  rw [readStartTag, List.drop_succ_cons, List.drop_zero] at h
  cases hname : tagName? s with
  | none => rw [hname] at h; cases h
  | some p =>
    obtain ⟨name, r⟩ := p
    rw [hname] at h
    dsimp only at h
    obtain ⟨hs, hn, hstop⟩ := tagName?_written hname
    cases hr : readAttributes ('<' :: s) (String.ofList name) r with
    | error e => rw [hr] at h; cases h
    | ok p =>
      obtain ⟨as, slash, rest'⟩ := p
      rw [hr] at h
      cases h
      obtain ⟨body, rfl, hbody⟩ := readAttributes_written hr
      obtain ⟨x, rfl⟩ := hbody.ends
      exact ⟨name, _, as, slash, hs, hn, (stops_append (by simp)).1 hstop, hbody, rfl⟩

theorem stops_isNameChar_blank {b rest : List Char} (hb : AllBlank b) :
    Stops isNameChar (b ++ '>' :: rest) := by
  cases b with
  | nil => exact stops_cons.2 (by decide)
  | cons c b => exact stops_cons.2 (isNameChar_of_isBlank (hb c (by simp)))

theorem readEndTag_run {b₁ name b₂ : List Char} (hb₁ : AllBlank b₁) (hn : IsTagName name)
    (hb₂ : AllBlank b₂) (rest : List Char) :
    readEndTag ('<' :: '/' :: (b₁ ++ (name ++ (b₂ ++ '>' :: rest)))) =
      .ok (String.ofList name, rest) := by
  rw [readEndTag, if_pos (by simp [List.isPrefixOf])]
  simp only [List.drop_succ_cons, List.drop_zero]
  rw [skipBlank_run hb₁ (hn.stops _), tagName?_run hn (stops_isNameChar_blank hb₂)]
  dsimp only
  rw [skipBlank_run hb₂ (stops_cons.2 (by decide))]
  rfl

theorem readEndTag_written {s rest : List Char} {name : String}
    (h : readEndTag ('<' :: '/' :: s) = .ok (name, rest)) :
    ∃ b₁ n b₂, s = b₁ ++ (n ++ (b₂ ++ '>' :: rest)) ∧ AllBlank b₁ ∧ IsTagName n ∧ AllBlank b₂ ∧
      name = String.ofList n := by
  rw [readEndTag, if_pos (by simp [List.isPrefixOf])] at h
  simp only [List.drop_succ_cons, List.drop_zero] at h
  obtain ⟨b₁, hb₁, hs, -⟩ := exists_blank s
  cases hname : tagName? (skipBlank s) with
  | none => rw [hname] at h; cases h
  | some p =>
    obtain ⟨n, r⟩ := p
    rw [hname] at h
    dsimp only at h
    obtain ⟨hs', hn, -⟩ := tagName?_written hname
    obtain ⟨b₂, hb₂, hr, -⟩ := exists_blank r
    cases hblank : skipBlank r with
    | nil => rw [hblank] at h; cases h
    | cons c t =>
      rw [hblank] at h hr
      dsimp only at h
      split at h
      · rename_i hc
        cases h
        exact ⟨b₁, n, b₂, by rw [hs, hs', hr, hc], hb₁, hn, hb₂, rfl⟩
      · cases h

end WidgetMarkup.Markup
