import WidgetMarkup.Proofs.Markup.Assembly
import WidgetMarkup.Proofs.Markup.TokenReading

/-!
# Reading undoes spelling

A forest can be spelled in many ways: values stand in quotes of either kind or bare, blanks come in
any number, a tag without content ends with a slash or has an end tag, and comments stand anywhere
between elements. Two texts next to each other must have a comment between them. However a forest is
spelled, reading gives it back, up to the locations of its tags.

The proof follows a spelling from left to right. What is already assembled and what follows the
spelling are arbitrary, except that nothing which follows may lengthen a text at its end.
-/
namespace WidgetMarkup.Markup

open Text

/-- Every attribute has a name that can be read, and a value in which one of the quotes does not
occur. -/
def Attributes.Writable (a : Attributes) : Prop :=
  ∀ e ∈ a.entries, IsAttributeName e.1.toList ∧
    ∃ value, e.2 = some value ∧ ¬('"' ∈ value.toList ∧ '\'' ∈ value.toList)

mutual

/-- Texts are runs without markup, names can be read, and void elements have no content. -/
def Element.Writable : Element → Prop
  | .text data => data ≠ "" ∧ IsPlain data.toList
  | .tag start children =>
    IsTagName start.name.toList ∧ start.attributes.Writable ∧
      (isVoid start.name = true → children = []) ∧ AllWritable children

def AllWritable : List Element → Prop
  | [] => True
  | e :: es => e.Writable ∧ AllWritable es

end

mutual

/-- An element without the locations of its tags. -/
def Element.unplaced : Element → Element
  | .text data => .text data
  | .tag start children =>
    .tag { start with line := none, column := none } (unplacedAll children)

def unplacedAll : List Element → List Element
  | [] => []
  | e :: es => e.unplaced :: unplacedAll es

end

/-- The spellings of an attribute: its name alone if that is the value, or with the value in quotes
or bare. -/
inductive SpellsAttribute : String × String → List Char → Prop
  | flag (name : String) : SpellsAttribute (name, name) name.toList
  | quoted {name value : String} {b₁ b₂ : List Char} {q : Char} : AllBlank b₁ → AllBlank b₂ →
      IsQuote q → q ∉ value.toList →
      SpellsAttribute (name, value)
        (name.toList ++ (b₁ ++ '=' :: (b₂ ++ q :: (value.toList ++ [q]))))
  | bare {name value : String} {b₁ b₂ : List Char} : AllBlank b₁ → AllBlank b₂ →
      value ≠ "" → (∀ c ∈ value.toList, isBareChar c = true) →
      value.toList.getLast? ≠ some '/' →
      SpellsAttribute (name, value) (name.toList ++ (b₁ ++ '=' :: (b₂ ++ value.toList)))

/-- The spellings of the attributes of a tag, in order and each after a blank. -/
inductive SpellsAttributes : List (String × Option String) → List Char → Prop
  | nil : SpellsAttributes [] []
  | cons {name value : String} {es : List (String × Option String)} {b u t : List Char} :
      AllBlank b → b ≠ [] → SpellsAttribute (name, value) u → SpellsAttributes es t →
      SpellsAttributes ((name, some value) :: es) (b ++ (u ++ t))

def tagEnding (slash : Bool) : List Char :=
  if slash then ['/', '>'] else ['>']

/-- The spellings of a start tag, with or without a slash at its end. -/
def SpellsStart (start : StartTag) (slash : Bool) (s : List Char) : Prop :=
  ∃ u b, SpellsAttributes start.attributes.entries u ∧ AllBlank b ∧
    s = '<' :: (start.name.toList ++ (u ++ (b ++ tagEnding slash)))

def SpellsEnd (name : String) (s : List Char) : Prop :=
  ∃ b₁ b₂, AllBlank b₁ ∧ AllBlank b₂ ∧
    s = ['<', '/'] ++ (b₁ ++ (name.toList ++ (b₂ ++ ['>'])))

/-- The spellings of a forest. The flag says that a text stands right before, so that no text may
come next. -/
inductive Spells : Bool → List Element → List Char → Prop
  | done {after : Bool} : Spells after [] []
  | comment {after : Bool} {body s : List Char} {forest : List Element} :
      ¬['-', '-', '>'] <:+: body → Spells false forest s →
      Spells after forest (['<', '!', '-', '-'] ++ (body ++ ['-', '-', '>']) ++ s)
  | text {data : String} {s : List Char} {forest : List Element} : Spells true forest s →
      Spells false (.text data :: forest) (data.toList ++ s)
  /-- A tag with a slash at its end, or a void one, stands alone. -/
  | closed {after : Bool} {start : StartTag} {slash : Bool} {u s : List Char}
      {forest : List Element} : (slash || isVoid start.name) = true →
      SpellsStart start slash u → Spells false forest s →
      Spells after (.tag start [] :: forest) (u ++ s)
  | enclosing {after : Bool} {start : StartTag} {u t v s : List Char}
      {children forest : List Element} : isVoid start.name = false →
      SpellsStart start false u → Spells false children t → SpellsEnd start.name v →
      Spells false forest s →
      Spells after (.tag start children :: forest) (u ++ (t ++ (v ++ s)))

/-- What may follow an attribute: a blank or the end of the tag. -/
def Apart (t : List Char) : Prop :=
  (∃ c r, t = c :: r ∧ (isBlank c = true ∨ c = '>')) ∨ ∃ r, t = '/' :: '>' :: r

theorem apart_blank {b : List Char} (hb : AllBlank b) (hne : b ≠ []) (t : List Char) :
    Apart (b ++ t) := by
  obtain ⟨c, r, rfl⟩ := List.exists_cons_of_ne_nil hne
  exact Or.inl ⟨c, r ++ t, rfl, Or.inl (hb c (by simp))⟩

theorem apart_ending {b : List Char} (hb : AllBlank b) (slash : Bool) :
    Apart (b ++ tagEnding slash) := by
  by_cases hne : b = []
  · subst hne
    cases slash with
    | false => exact Or.inl ⟨'>', [], rfl, Or.inr rfl⟩
    | true => exact Or.inr ⟨[], rfl⟩
  · exact apart_blank hb hne _

theorem Apart.stops_isAttributeChar {t : List Char} (h : Apart t) : Stops isAttributeChar t := by
  rcases h with ⟨c, r, rfl, hc⟩ | ⟨r, rfl⟩
  · rw [stops_cons, Bool.eq_false_iff]
    intro ha
    obtain ⟨hblank, -, -, hgt, -⟩ := isAttributeChar_iff.1 ha
    rcases hc with hc | hc
    · rw [hblank] at hc
      cases hc
    · exact hgt hc
  · exact stops_cons.2 (by decide)

theorem Apart.stops_isNameChar {t : List Char} (h : Apart t) : Stops isNameChar t := by
  rcases h with ⟨c, r, rfl, hc | rfl⟩ | ⟨r, rfl⟩
  · exact stops_cons.2 (isNameChar_of_isBlank hc)
  · exact stops_cons.2 (by decide)
  · exact stops_cons.2 (by decide)

theorem Apart.bareEnd {value t : List Char} (h : Apart t) (hne : value ≠ [])
    (hslash : value.getLast? ≠ some '/') : BareEnd value t := by
  rcases h with ⟨c, r, rfl, hc⟩ | ⟨r, rfl⟩
  · refine Or.inl ⟨hne, ?_, fun hand => hslash hand.1⟩
    rw [stops_cons, Bool.eq_false_iff]
    intro hb
    obtain ⟨hblank, hgt, -⟩ := isBareChar_iff.1 hb
    rcases hc with hc | hc
    · rw [hblank] at hc
      cases hc
    · exact hgt hc
  · exact Or.inr ⟨r, rfl⟩

theorem TagBody.stops_equals {as : List (String × String)} {slash : Bool} {t : List Char}
    (h : TagBody as slash t) : Stops (· == '=') (skipBlank t) := by
  cases h with
  | plain hb =>
    rw [skipBlank_run hb (stops_cons.2 (by decide))]
    exact stops_cons.2 (by decide)
  | slash hb =>
    rw [skipBlank_run hb (stops_cons.2 (by decide))]
    exact stops_cons.2 (by decide)
  | more hb ha _ =>
    obtain ⟨name, v, hn, rfl⟩ := ha.name
    rw [List.append_assoc, skipBlank_run hb (hn.stops _)]
    obtain ⟨c, n, rfl⟩ := List.exists_cons_of_ne_nil hn.1
    have hc := isAttributeChar_iff.1 (hn.2 c (by simp))
    exact stops_cons.2 (by simpa using hc.2.1)

theorem SpellsAttribute.written {name value : String} {u t : List Char}
    (h : SpellsAttribute (name, value) u) (hn : IsAttributeName name.toList) (ht : Apart t)
    (heq : Stops (· == '=') (skipBlank t)) : AttributeWritten (name, value) u t := by
  cases h with
  | flag =>
    have hw := AttributeWritten.flag hn ht.stops_isAttributeChar heq
    rwa [String.ofList_toList] at hw
  | quoted hb₁ hb₂ hq hv =>
    have hw : AttributeWritten _ _ t := .quoted hn hb₁ hb₂ hq hv
    rwa [String.ofList_toList, String.ofList_toList] at hw
  | bare hb₁ hb₂ hne hv hslash =>
    have hne : value.toList ≠ [] := by simpa using hne
    have hw := AttributeWritten.bare hn hb₁ hb₂ hv (ht.bareEnd hne hslash)
    rwa [String.ofList_toList, String.ofList_toList] at hw

theorem SpellsAttributes.tagBody {es : List (String × Option String)} {u b : List Char}
    (h : SpellsAttributes es u) (slash : Bool) (hn : ∀ e ∈ es, IsAttributeName e.1.toList)
    (hb : AllBlank b) :
    ∃ as : List (String × String), es = as.map (fun a => (a.1, some a.2)) ∧
      TagBody as slash (u ++ (b ++ tagEnding slash)) ∧ Apart (u ++ (b ++ tagEnding slash)) := by
  induction h with
  | nil =>
    refine ⟨[], rfl, ?_, apart_ending hb slash⟩
    cases slash with
    | false => exact .plain hb
    | true => exact .slash hb
  | @cons name value es b' u t hb' hne hu ht ih =>
    obtain ⟨as, rfl, hbody, hapart⟩ := ih fun e he => hn e (List.mem_cons_of_mem _ he)
    have hwritten := hu.written (hn _ List.mem_cons_self) hapart hbody.stops_equals
    rw [List.append_assoc, List.append_assoc]
    exact ⟨(name, value) :: as, rfl, .more hb' hwritten hbody, apart_blank hb' hne _⟩

theorem Attributes.ofWritten_eq {a : Attributes} {l : List (String × String)}
    (h : a.entries = l.map fun e => (e.1, some e.2)) : Attributes.ofWritten l = a := by
  have hnodup := a.nodup
  rw [h, List.map_map] at hnodup
  have hentries : (Attributes.ofWritten l).entries = a.entries := by
    rw [entries_ofWritten, firstOccurrences_of_nodup hnodup, h]
  generalize Attributes.ofWritten l = a' at hentries
  cases a
  cases a'
  cases hentries
  rfl

theorem SpellsStart.written {start : StartTag} {slash : Bool} {u : List Char}
    (h : SpellsStart start slash u) (hn : IsTagName start.name.toList)
    (ha : start.attributes.Writable) :
    ∃ as, Attributes.ofWritten as = start.attributes ∧
      Token.Written (.startTag ⟨start.name, as, slash || isVoid start.name⟩) u := by
  obtain ⟨u, b, hu, hb, rfl⟩ := h
  obtain ⟨as, has, hbody, hapart⟩ := hu.tagBody slash (fun e he => (ha e he).1) hb
  refine ⟨as, Attributes.ofWritten_eq has, ?_⟩
  have hw := Token.Written.startTag hn hapart.stops_isNameChar hbody
  rwa [String.ofList_toList] at hw

theorem SpellsEnd.written {name : String} {s : List Char} (h : SpellsEnd name s)
    (hn : IsTagName name.toList) : Token.Written (.endTag name) s := by
  obtain ⟨b₁, b₂, hb₁, hb₂, rfl⟩ := h
  have hw := Token.Written.endTag hb₁ hn hb₂
  rwa [String.ofList_toList] at hw

theorem SpellsStart.startsMarkup {start : StartTag} {slash : Bool} {u : List Char}
    (h : SpellsStart start slash u) (hn : IsTagName start.name.toList) :
    startsMarkup u = true := by
  obtain ⟨u, b, -, -, rfl⟩ := h
  obtain ⟨c, t, hname, hc, -⟩ := hn
  rw [hname]
  exact startsMarkup_iff.2 ⟨c, _, rfl, Or.inr (Or.inr (Or.inr hc))⟩

/-- Nothing that comes after a text would lengthen it. -/
theorem Spells.after_text {forest : List Element} {s : List Char} (h : Spells true forest s)
    (hw : AllWritable forest) : s = [] ∨ startsMarkup s = true := by
  cases h with
  | done => exact Or.inl rfl
  | comment _ _ => exact Or.inr rfl
  | closed _ hu _ => exact Or.inr (startsMarkup_extend (hu.startsMarkup hw.1.1))
  | enclosing _ hu _ _ _ => exact Or.inr (startsMarkup_extend (hu.startsMarkup hw.1.1))

theorem endsBefore_of_not_text {token : Token} (h : token.isText = false) (rest : List Char) :
    token.EndsBefore rest := by
  intro ht
  rw [h] at ht
  cases ht

section Reading

variable {location : List Char → Location}

theorem readOn_comment {body : List Char} (h : ¬['-', '-', '>'] <:+: body) (p : Progress)
    (rest : List Char) :
    p.readOn location (['<', '!', '-', '-'] ++ (body ++ ['-', '-', '>']) ++ rest) =
      p.readOn location rest := by
  rw [Progress.readOn_written (.comment h) (endsBefore_of_not_text rfl rest)]
  rfl

theorem readOn_text {data : String} (hne : data ≠ "") (h : IsPlain data.toList) (p : Progress)
    {rest : List Char} (hrest : rest = [] ∨ startsMarkup rest = true) :
    p.readOn location (data.toList ++ rest) = (p.add (.text data)).readOn location rest := by
  have hw : Token.Written (.text data) data.toList := by
    have hw := Token.Written.text (by simpa using hne) h
    rwa [String.ofList_toList] at hw
  rw [Progress.readOn_written hw fun _ => hrest]
  rfl

theorem readOn_closed {start : StartTag} {slash : Bool} {u : List Char}
    (h : SpellsStart start slash u) (hclosed : (slash || isVoid start.name) = true)
    (hn : IsTagName start.name.toList) (ha : start.attributes.Writable) (p : Progress)
    (rest : List Char) :
    ∃ start' : StartTag, Element.unplaced (.tag start' []) = Element.unplaced (.tag start []) ∧
      p.readOn location (u ++ rest) = (p.add (.tag start' [])).readOn location rest := by
  obtain ⟨as, has, hu⟩ := h.written hn ha
  let spot := location (u ++ rest)
  refine ⟨⟨start.name, start.attributes, some spot.line, some spot.column⟩, rfl, ?_⟩
  rw [Progress.readOn_written hu (endsBefore_of_not_text rfl rest)]
  simp only [Progress.step, has, hclosed, if_true]
  rfl

theorem readOn_opening {start : StartTag} {u : List Char} (h : SpellsStart start false u)
    (hvoid : isVoid start.name = false) (hn : IsTagName start.name.toList)
    (ha : start.attributes.Writable) (p : Progress) (rest : List Char) :
    ∃ start' : StartTag, start'.name = start.name ∧
      (∀ es es', unplacedAll es = unplacedAll es' →
        Element.unplaced (.tag start' es) = Element.unplaced (.tag start es')) ∧
      ∃ place, p.readOn location (u ++ rest) =
        Progress.readOn location ⟨⟨start', place, p.done⟩ :: p.opened, []⟩ rest := by
  obtain ⟨as, has, hu⟩ := h.written hn ha
  let spot := location (u ++ rest)
  refine ⟨⟨start.name, start.attributes, some spot.line, some spot.column⟩, rfl, ?_, u ++ rest, ?_⟩
  · intro es es' hes
    simp only [Element.unplaced, hes]
  · rw [Progress.readOn_written hu (endsBefore_of_not_text rfl rest)]
    simp only [Progress.step, has, hvoid, Bool.or_self, Bool.false_eq_true, if_false]
    rfl

theorem readOn_ending {start : StartTag} {place v : List Char} (h : SpellsEnd start.name v)
    (hn : IsTagName start.name.toList) (before done : List Element) (outer : List OpenTag)
    (rest : List Char) :
    Progress.readOn location ⟨⟨start, place, before⟩ :: outer, done⟩ (v ++ rest) =
      Progress.readOn location ⟨outer, .tag start done.reverse :: before⟩ rest := by
  rw [Progress.readOn_written (h.written hn) (endsBefore_of_not_text rfl rest)]
  simp only [Progress.step, if_true]
  rfl

/-- Reading a spelling adds the forest to what has been assembled, whatever that is. -/
theorem Spells.readOn {after : Bool} {forest : List Element} {s : List Char}
    (h : Spells after forest s) (hw : AllWritable forest) (p : Progress) {rest : List Char}
    (hrest : rest = [] ∨ startsMarkup rest = true) :
    ∃ es, unplacedAll es = unplacedAll forest ∧
      p.readOn location (s ++ rest) =
        Progress.readOn location ⟨p.opened, es.reverse ++ p.done⟩ rest := by
  induction h generalizing p rest with
  | done => exact ⟨[], rfl, rfl⟩
  | comment hbody _ ih =>
    obtain ⟨es, hes, hread⟩ := ih hw p hrest
    refine ⟨es, hes, ?_⟩
    rw [List.append_assoc, readOn_comment hbody, hread]
  | @text data s forest hs ih =>
    obtain ⟨⟨hne, hplain⟩, hw⟩ := hw
    have hnext : s ++ rest = [] ∨ startsMarkup (s ++ rest) = true := by
      rcases hs.after_text hw with rfl | hs
      · exact hrest
      · exact Or.inr (startsMarkup_extend hs)
    obtain ⟨es, hes, hread⟩ := ih hw (p.add (.text data)) hrest
    refine ⟨.text data :: es, by simp only [unplacedAll, hes], ?_⟩
    rw [List.append_assoc, readOn_text hne hplain p hnext, hread]
    simp [Progress.add]
  | @closed _ start slash u s forest hclosed hu _ ih =>
    obtain ⟨⟨hn, ha, -⟩, hw⟩ := hw
    obtain ⟨start', hstart, hfirst⟩ := readOn_closed hu hclosed hn ha p (s ++ rest)
    obtain ⟨es, hes, hread⟩ := ih hw (p.add (.tag start' [])) hrest
    refine ⟨.tag start' [] :: es, by simp only [unplacedAll, hstart, hes], ?_⟩
    rw [List.append_assoc, hfirst, hread]
    simp [Progress.add]
  | @enclosing _ start u t v s children forest hvoid hu _ hv _ ihc ih =>
    obtain ⟨⟨hn, ha, -, hwc⟩, hw⟩ := hw
    obtain ⟨start', hname, hstart, place, hfirst⟩ :=
      readOn_opening hu hvoid hn ha p (t ++ (v ++ (s ++ rest)))
    have hend : startsMarkup (v ++ (s ++ rest)) = true := by
      obtain ⟨b₁, b₂, -, -, rfl⟩ := hv
      rfl
    obtain ⟨inner, hinner, hchildren⟩ :=
      ihc hwc ⟨⟨start', place, p.done⟩ :: p.opened, []⟩ (Or.inr hend)
    obtain ⟨es, hes, hread⟩ := ih hw (p.add (.tag start' inner)) hrest
    refine ⟨.tag start' inner :: es,
      by simp only [unplacedAll, hstart _ _ hinner, hes], ?_⟩
    rw [← hname] at hv hn
    simp only [List.append_assoc]
    rw [hfirst, hchildren, readOn_ending hv hn]
    simp only [List.append_nil, List.reverse_reverse]
    exact hread.trans (by simp [Progress.add])

end Reading

theorem exists_spellsAttributes (es : List (String × Option String))
    (h : ∀ e ∈ es, ∃ value, e.2 = some value ∧ ¬('"' ∈ value.toList ∧ '\'' ∈ value.toList)) :
    ∃ u, SpellsAttributes es u := by
  induction es with
  | nil => exact ⟨[], .nil⟩
  | cons e es ih =>
    obtain ⟨name, o⟩ := e
    obtain ⟨t, ht⟩ := ih fun e he => h e (List.mem_cons_of_mem _ he)
    obtain ⟨value, rfl, hquotes⟩ := h _ List.mem_cons_self
    have hblank : AllBlank [' '] := by simp [AllBlank, isBlank]
    have hquote : ∃ q, IsQuote q ∧ q ∉ value.toList := by
      by_cases hdouble : '"' ∈ value.toList
      · exact ⟨'\'', Or.inr rfl, fun hsingle => hquotes ⟨hdouble, hsingle⟩⟩
      · exact ⟨'"', Or.inl rfl, hdouble⟩
    obtain ⟨q, hq, hv⟩ := hquote
    have hnone : AllBlank [] := by simp [AllBlank]
    exact ⟨_, .cons hblank (by simp) (.quoted hnone hnone hq hv) ht⟩

theorem exists_spells : ∀ (forest : List Element), AllWritable forest →
    ∀ after, ∃ s, Spells after forest s
  | [], _, _ => ⟨[], .done⟩
  | .text data :: forest, hw, after => by
    obtain ⟨s, hs⟩ := exists_spells forest hw.2 true
    -- an empty comment keeps this text apart from one before it
    have hbody : ¬['-', '-', '>'] <:+: ([] : List Char) := by simp
    exact ⟨_, .comment hbody (.text hs)⟩
  | .tag start children :: forest, hw, after => by
    obtain ⟨⟨-, ha, hvoid, hwc⟩, hw⟩ := hw
    obtain ⟨u, hu⟩ := exists_spellsAttributes _ fun e he => (ha e he).2
    obtain ⟨s, hs⟩ := exists_spells forest hw false
    have hnone : AllBlank [] := by simp [AllBlank]
    by_cases hv : isVoid start.name = true
    · obtain rfl := hvoid hv
      have hstart : SpellsStart start false _ := ⟨u, [], hu, hnone, rfl⟩
      exact ⟨_, .closed (by rw [hv, Bool.or_true]) hstart hs⟩
    · rw [Bool.not_eq_true] at hv
      obtain ⟨t, ht⟩ := exists_spells children hwc false
      exact ⟨_, .enclosing hv ⟨u, [], hu, hnone, rfl⟩ ht ⟨[], [], hnone, hnone, rfl⟩ hs⟩
termination_by forest => sizeOf forest

/-- A forest that can be written has a spelling, and reading any of its spellings gives the forest
back, but for the locations of its tags. -/
theorem read_spelling {forest : List Element} (hw : AllWritable forest) :
    (∃ source : String, Spells false forest source.toList) ∧
      ∀ source : String, Spells false forest source.toList →
        ∃ roots, read source = .ok roots ∧ unplacedAll roots = unplacedAll forest := by
  constructor
  · obtain ⟨s, hs⟩ := exists_spells forest hw false
    exact ⟨String.ofList s, by rwa [String.toList_ofList]⟩
  · intro source hs
    obtain ⟨roots, hroots, hread⟩ := hs.readOn hw {} (Or.inl rfl)
    refine ⟨roots, ?_, hroots⟩
    rw [List.append_nil] at hread
    rw [read, readChars_eq, hread, Progress.readOn_nil]
    simp [Progress.finish]

/-- A tag with attributes of every kind around two texts and a void tag in capitals. -/
def sampleForest : List Element :=
  [.tag
    { name := "a:B"
      attributes :=
        { entries := [("x", some "x"), ("y.z", some "p/q"), ("w", some "say \"hi\"")]
          nodup := by decide } }
    [.text "1 < 2", .text "<", .tag { name := "BR", attributes := default } []]]

def sampleSpelling : String :=
  "<a:B x y.z=p/q w = 'say \"hi\"' >1 < 2<!-- - --><<BR></ a:B >"

-- Characters are checked by `List.all`, which goes through the list and not through all characters.
theorem sampleForest_writable : AllWritable sampleForest := by
  refine ⟨⟨⟨'a', _, rfl, by decide, List.all_eq_true.1 (by decide +kernel)⟩, ?_,
    by decide +kernel, ?_⟩, trivial⟩
  · intro e he
    simp only [List.mem_cons, List.not_mem_nil, or_false] at he
    rcases he with rfl | rfl | rfl
    · exact ⟨⟨by decide, List.all_eq_true.1 (by decide +kernel)⟩, "x", rfl, by decide⟩
    · exact ⟨⟨by decide, List.all_eq_true.1 (by decide +kernel)⟩, "p/q", rfl, by decide⟩
    · exact ⟨⟨by decide, List.all_eq_true.1 (by decide +kernel)⟩, "say \"hi\"", rfl, by decide⟩
  · refine ⟨⟨by decide, ?_⟩, ⟨by decide, ?_⟩,
      ⟨⟨'B', _, rfl, by decide, List.all_eq_true.1 (by decide +kernel)⟩, ?_, fun _ => rfl,
        trivial⟩, trivial⟩
    · simp [isPlain_cons, isPlain_nil, startsMarkup, isNameStart]
    · simp [isPlain_cons, isPlain_nil, startsMarkup]
    · intro e he
      cases he

theorem sampleSpelling_spells : Spells false sampleForest sampleSpelling.toList := by
  have hnone : AllBlank [] := by simp [AllBlank]
  have hblank : AllBlank [' '] := by simp [AllBlank, isBlank]
  have hx := SpellsAttribute.flag "x"
  have hy : SpellsAttribute ("y.z", "p/q") _ :=
    .bare hnone hnone (by decide) (List.all_eq_true.1 (by decide)) (by decide)
  have hw : SpellsAttribute ("w", "say \"hi\"") _ :=
    .quoted hblank hblank (Or.inr rfl) (by decide)
  have hattributes := SpellsAttributes.cons hblank (by simp) hx
    (.cons hblank (by simp) hy (.cons hblank (by simp) hw .nil))
  have hbr : SpellsStart { name := "BR", attributes := default } false _ :=
    ⟨[], [], .nil, hnone, rfl⟩
  have hcomment : ¬['-', '-', '>'] <:+: [' ', '-', ' '] := by decide
  have hchildren : Spells false
      [.text "1 < 2", .text "<", .tag { name := "BR", attributes := default } []] _ :=
    .text (.comment hcomment (.text (.closed (by decide +kernel) hbr .done)))
  have hend : SpellsEnd "a:B" _ := ⟨[' '], [' '], hblank, hblank, rfl⟩
  have hsample : Spells false sampleForest _ :=
    .enclosing (by decide +kernel) ⟨_, [' '], hattributes, hblank, rfl⟩ hchildren hend .done
  refine Eq.mp (congrArg (Spells false sampleForest) ?_) hsample
  decide +kernel

theorem read_sampleSpelling :
    AllWritable sampleForest ∧ Spells false sampleForest sampleSpelling.toList ∧
      ∃ roots, read sampleSpelling = .ok roots ∧ unplacedAll roots = unplacedAll sampleForest :=
  ⟨sampleForest_writable, sampleSpelling_spells,
    (read_spelling sampleForest_writable).2 sampleSpelling sampleSpelling_spells⟩

end WidgetMarkup.Markup
