import WidgetMarkup.Proofs.Text.Lines
import WidgetMarkup.Proofs.Text.LongReference

/-!
# Escaped text

The four characters that mean something in markup can be written as named references. A text that is
escaped in this way is what its references are decoded to. That a reference ends where it should, no
matter what follows, is a fact about the table: no other name goes on from `amp;`, `lt;`, `gt;` or
`quot;`.
-/
namespace WidgetMarkup.Text

/-- The characters of markup and the names of the references that stand for them. -/
def referenceNames : List (Char × String) :=
  [('&', "amp;"), ('<', "lt;"), ('>', "gt;"), ('"', "quot;")]

def charReference (c : Char) : List Char :=
  match referenceNames.lookup c with
  | some name => '&' :: name.toList
  | none => [c]

/-- The text with the characters of markup written as references. -/
def escape (s : List Char) : List Char :=
  s.flatMap charReference

theorem escape_cons (c : Char) (s : List Char) : escape (c :: s) = charReference c ++ escape s :=
  List.flatMap_cons

theorem charReference_cases (c : Char) :
    (∃ name, (c, name) ∈ referenceNames ∧ charReference c = '&' :: name.toList) ∨
    c ∉ referenceNames.map (·.1) ∧ charReference c = [c] := by
  unfold charReference
  cases hname : referenceNames.lookup c with
  | none =>
    refine Or.inr ⟨fun hmem => ?_, rfl⟩
    obtain ⟨e, he, rfl⟩ := List.mem_map.1 hmem
    exact absurd (List.lookup_eq_none_iff.1 hname e he) (by simp)
  | some name =>
    obtain ⟨before, after, hsplit, -⟩ := List.lookup_eq_some_iff.1 hname
    exact Or.inl ⟨name, by simp [hsplit], rfl⟩

namespace ReferenceName

theorem isPrefix_bytes {a b : String} (h : a.toList <+: b.toList) :
    a.toByteArray.data.toList <+: b.toByteArray.data.toList := by
  obtain ⟨t, ht⟩ := h
  rw [← String.utf8Encode_toList, ← String.utf8Encode_toList, ← ht]
  simp only [List.utf8Encode, List.data_toByteArray, List.flatMap_append]
  exact List.prefix_append _ _

theorem foldl_longer_eq {e d : String × List Nat} {es : List (String × List Nat)}
    (hmem : e ∈ d :: es) (h : ∀ x ∈ d :: es, x = e ∨ x.1.length < e.1.length) :
    es.foldl longer d = e := by
  induction es generalizing d with
  | nil => exact (List.mem_singleton.1 hmem).symm
  | cons x es ih =>
    rw [List.foldl_cons]
    have hd := h d List.mem_cons_self
    have hx := h x (List.mem_cons_of_mem _ List.mem_cons_self)
    have hes := fun y hy => h y (List.mem_cons_of_mem _ (List.mem_cons_of_mem x hy))
    apply ih
    · unfold longer
      rcases List.mem_cons.1 hmem with rfl | hrest
      · -- nothing takes the place of the entry once it is there
        rcases hx with rfl | hx
        · simp
        · rw [if_neg (by omega)]
          exact List.mem_cons_self
      · rcases List.mem_cons.1 hrest with rfl | hes
        · rcases hd with rfl | hd
          · simp
          · rw [if_pos hd]
            exact List.mem_cons_self
        · exact List.mem_cons_of_mem _ hes
    · intro y hy
      rcases List.mem_cons.1 hy with rfl | hy
      · rcases longer_eq d x with heq | heq
        · rw [heq]
          exact hd
        · rw [heq]
          exact hx
      · exact hes y hy

/-- The entries whose names go on from a name. -/
def goingOn (c : Char) (name : String) : List (String × List Nat) :=
  (startingWith c).filter fun e =>
    name.toByteArray.data.toList.isPrefixOf e.1.toByteArray.data.toList

/-- A name from which no other goes on is found whatever follows it. -/
theorem longest?_append {c : Char} {u : List Char} {e : String × List Nat}
    (hname : e.1.toList = c :: u) (h : goingOn c e.1 = [e]) (t : List Char) :
    longest? (e.1.toList ++ t) = some e := by
  have honly : ∀ d ∈ startingWith c, e.1.toList <+: d.1.toList → d = e := by
    intro d hd hprefix
    have hmem : d ∈ goingOn c e.1 :=
      List.mem_filter.2 ⟨hd, List.isPrefixOf_iff_prefix.2 (isPrefix_bytes hprefix)⟩
    rw [h] at hmem
    exact List.mem_singleton.1 hmem
  have htable : e ∈ startingWith c := by
    have hmem : e ∈ goingOn c e.1 := h ▸ List.mem_cons_self
    exact (List.mem_filter.1 hmem).1
  have hfound : e ∈ (startingWith c).filter fun d => d.1.toList.isPrefixOf (e.1.toList ++ t) :=
    List.mem_filter.2 ⟨htable, List.isPrefixOf_iff_prefix.2 (List.prefix_append _ _)⟩
  have hall : ∀ d ∈ (startingWith c).filter fun d => d.1.toList.isPrefixOf (e.1.toList ++ t),
      d = e ∨ d.1.length < e.1.length := by
    intro d hd
    obtain ⟨hd, hprefix⟩ := List.mem_filter.1 hd
    rw [List.isPrefixOf_iff_prefix] at hprefix
    -- both names start the same text, so the longer one goes on from the other
    by_cases hle : e.1.length ≤ d.1.length
    · have hlength : e.1.toList.length ≤ d.1.toList.length := by
        rwa [String.length_toList, String.length_toList]
      exact Or.inl (honly d hd
        (List.prefix_of_prefix_length_le (List.prefix_append _ t) hprefix hlength))
    · exact Or.inr (by omega)
  have hlongest : longest? (c :: (u ++ t)) = longest? (e.1.toList ++ t) := by
    rw [hname, List.cons_append]
  rw [← hlongest, longest?, ← List.cons_append, ← hname]
  split
  · rename_i hnil
    rw [hnil] at hfound
    cases hfound
  · rename_i d ds hfilter
    rw [hfilter] at hfound hall
    rw [foldl_longer_eq hfound hall]

end ReferenceName

theorem decodeReferences_name {c : Char} {name : String} (first : Char) (u : List Char)
    (hname : name.toList = first :: u) (hfirst : first ≠ '#')
    (h : ReferenceName.goingOn first name = [(name, [c.toNat])]) (t : List Char) :
    decodeReferences ('&' :: (name.toList ++ t)) = (c :: ·) <$> decodeReferences t := by
  have hlongest := ReferenceName.longest?_append (e := (name, [c.toNat])) hname h t
  have hread : Reference.read? (name.toList ++ t) = some (.named [c.toNat], name.length) := by
    rw [hname, List.cons_append, Reference.read?, ← List.cons_append, ← hname, hlongest]
    · rfl
    · intro s hs
      injection hs with hs
      exact hfirst hs
  have hdrop : (name.toList ++ t).drop name.length = t := by
    rw [← String.length_toList, List.drop_left]
  rw [decodeReferences, if_pos rfl, hread]
  simp only [Reference.value, hdrop, List.map_cons, List.map_nil, Char.ofNat_toNat]
  cases decodeReferences t with
  | error e => rfl
  | ok v => rfl

theorem decodeReferences_charReference (c : Char) (t : List Char) :
    decodeReferences (charReference c ++ t) = (c :: ·) <$> decodeReferences t := by
  rcases charReference_cases c with ⟨name, hmem, heq⟩ | ⟨hplain, heq⟩
  · rw [heq, List.cons_append]
    simp only [referenceNames, List.mem_cons, List.not_mem_nil, or_false, Prod.mk.injEq] at hmem
    rcases hmem with ⟨rfl, rfl⟩ | ⟨rfl, rfl⟩ | ⟨rfl, rfl⟩ | ⟨rfl, rfl⟩
    · exact decodeReferences_name 'a' ['m', 'p', ';'] rfl (by decide) (by decide +kernel) t
    · exact decodeReferences_name 'l' ['t', ';'] rfl (by decide) (by decide +kernel) t
    · exact decodeReferences_name 'g' ['t', ';'] rfl (by decide) (by decide +kernel) t
    · exact decodeReferences_name 'q' ['u', 'o', 't', ';'] rfl (by decide) (by decide +kernel) t
  · have hc : c ≠ '&' := by
      rintro rfl
      exact hplain (by decide)
    rw [heq, List.singleton_append, decodeReferences, if_neg hc]

/-- An escaped text is decoded to the text itself. -/
theorem decodeReferences_escape (s : List Char) : decodeReferences (escape s) = .ok s := by
  induction s with
  | nil => rw [escape, List.flatMap_nil, decodeReferences]
  | cons c s ih =>
    rw [escape_cons, decodeReferences_charReference, ih]
    rfl

theorem mem_escape {d : Char} {s : List Char} (h : d ∈ escape s) :
    d ∈ s ∧ d ∉ referenceNames.map (·.1) ∨ d ∈ "&;ampltgquo".toList := by
  obtain ⟨c, hc, hd⟩ := List.mem_flatMap.1 h
  rcases charReference_cases c with ⟨name, hmem, heq⟩ | ⟨hplain, heq⟩
  · have hnames : (referenceNames.all fun e => ('&' :: e.2.toList).all fun d =>
        "&;ampltgquo".toList.contains d) = true := by decide
    rw [heq] at hd
    have hd := List.all_eq_true.1 (List.all_eq_true.1 hnames _ hmem) d hd
    exact Or.inr (List.contains_iff_mem.1 hd)
  · rw [heq, List.mem_singleton] at hd
    subst hd
    exact Or.inl ⟨hc, hplain⟩

theorem not_mem_escape {d : Char} (h : d ∈ ['<', '>', '"']) (s : List Char) : d ∉ escape s := by
  intro hmem
  simp only [List.mem_cons, List.not_mem_nil, or_false] at h
  rcases mem_escape hmem with ⟨-, hplain⟩ | hname
  · apply hplain
    rcases h with rfl | rfl | rfl <;> decide
  · revert hname
    rcases h with rfl | rfl | rfl <;> decide

theorem escape_ne_nil {s : List Char} (h : s ≠ []) : escape s ≠ [] := by
  cases s with
  | nil => exact absurd rfl h
  | cons c s =>
    rw [escape_cons]
    rcases charReference_cases c with ⟨name, -, heq⟩ | ⟨-, heq⟩
    · simp [heq]
    · simp [heq]

/-- Without an ampersand, what an escaped text starts with is what the text starts with. -/
theorem prefix_of_prefix_escape {u s : List Char} (hu : '&' ∉ u) (h : u <+: escape s) :
    u <+: s := by
  induction s generalizing u with
  | nil => exact h
  | cons c s ih =>
    cases u with
    | nil => exact List.nil_prefix
    | cons d u =>
      rw [escape_cons] at h
      rcases charReference_cases c with ⟨name, -, heq⟩ | ⟨-, heq⟩
      · rw [heq, List.cons_append, List.cons_prefix_cons] at h
        exact absurd (h.1 ▸ List.mem_cons_self) hu
      · rw [heq, List.singleton_append, List.cons_prefix_cons] at h
        exact List.cons_prefix_cons.2 ⟨h.1, ih (List.not_mem_of_not_mem_cons hu) h.2⟩

theorem head?_escape {d : Char} {s : List Char} (h : d ∈ (escape s).head?) :
    d = '&' ∨ d ∈ s.head? := by
  by_cases hd : d = '&'
  · exact Or.inl hd
  · right
    obtain ⟨t, ht⟩ := List.head?_eq_some_iff.1 h
    have hprefix : [d] <+: escape s := ⟨t, ht.symm⟩
    obtain ⟨r, rfl⟩ := prefix_of_prefix_escape (by simpa using Ne.symm hd) hprefix
    rfl

theorem getLast?_escape {d : Char} {s : List Char} (h : d ∈ (escape s).getLast?) :
    d = ';' ∨ d ∈ s.getLast? := by
  induction s using List.reverseRecOn with
  | nil => cases h
  | append_singleton s c _ =>
    have hsplit : escape (s ++ [c]) = escape s ++ charReference c := by
      simp [escape]
    rw [hsplit] at h
    rcases charReference_cases c with ⟨name, hmem, heq⟩ | ⟨-, heq⟩
    · left
      rw [heq] at h
      simp only [referenceNames, List.mem_cons, List.not_mem_nil, or_false, Prod.mk.injEq] at hmem
      rcases hmem with ⟨-, rfl⟩ | ⟨-, rfl⟩ | ⟨-, rfl⟩ | ⟨-, rfl⟩
      all_goals
        rw [List.getLast?_append_of_ne_nil _ (by simp)] at h
        exact (Option.mem_some_iff.1 h).symm
    · right
      rw [heq] at h
      rwa [List.getLast?_concat] at h ⊢

theorem trim_escape {s : List Char} (h : trim s = s) : trim (escape s) = escape s := by
  obtain ⟨hfirst, hlast⟩ := trim_eq_self_iff.1 h
  refine trim_eq_self_iff.2 ⟨fun d hd => ?_, fun d hd => ?_⟩
  · rcases head?_escape hd with rfl | hd
    · decide
    · exact hfirst d hd
  · rcases getLast?_escape hd with rfl | hd
    · decide
    · exact hlast d hd

end WidgetMarkup.Text
