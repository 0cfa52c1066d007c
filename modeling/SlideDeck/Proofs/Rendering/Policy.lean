import SlideDeck.Page.Html
import SlideDeck.Proofs.Rendering.OpeningTag

/-!
Contract: what becomes of slides that cannot be rendered.

A fragment is a slide, or what takes its place when it cannot be rendered. It is a matter of that
slide, its index and the transition of the deck alone. The two policies differ only in what they
do at the first failure. The name of a transition is written into the tag of a fragment as it is,
so that white space and quotes of its own change what is read there.

Owns:
- `fragment` and `fragments`;
- the steps of `slidesFrom`, and from them what all slides come to under either policy;
- `opening`, the tag with which every fragment begins, and `Opens`, what is read of it;
- two names that are not read as they were written.

Does not own: which slides fail.
-/

namespace SlideDeck.Markup

open SlideDeck.Deck (Slide)

variable {isolate : Bool} {deckTransition : Option String} {index : Nat} {first : Slide}
  {others : List Slide}

/-- A slide, or what takes its place. -/
def fragment (deckTransition : Option String) (index : Nat) (slide : Slide) : String :=
  match Markup.slide slide index deckTransition with
  | .ok text => text
  | .error missing => failureSlide slide index deckTransition ⟨index + 1, missing⟩

def fragments (deckTransition : Option String) (index : Nat) (slides : List Slide) :
    List String :=
  slides.mapIdx fun position slide => fragment deckTransition (index + position) slide

def Renders (deckTransition : Option String) (index : Nat) (slide : Slide) : Prop :=
  ∃ text, Markup.slide slide index deckTransition = .ok text

def AllRender (deckTransition : Option String) (index : Nat) (slides : List Slide) : Prop :=
  ∀ position slide, slides[position]? = some slide →
    Renders deckTransition (index + position) slide

/-- Whether a failure is that of the first slide that cannot be rendered. -/
def FirstFailure (deckTransition : Option String) (index : Nat) (slides : List Slide)
    (failure : SlideFailure) : Prop :=
  ∃ position slide, slides[position]? = some slide ∧
    Markup.slide slide (index + position) deckTransition = .error failure.cause ∧
    failure.number = index + position + 1 ∧
    AllRender deckTransition index (slides.take position)

/-! ### One slide at a time -/

theorem fragments_cons :
    fragments deckTransition index (first :: others) =
      fragment deckTransition index first :: fragments deckTransition (index + 1) others := by
  have shift : (fun position slide => fragment deckTransition (index + (position + 1)) slide) =
      fun position slide => fragment deckTransition (index + 1 + position) slide := by
    funext position slide
    rw [Nat.add_comm position, Nat.add_assoc]
  rw [fragments, List.mapIdx_cons, Nat.add_zero, shift, fragments]

theorem allRender_cons :
    AllRender deckTransition index (first :: others) ↔
      Renders deckTransition index first ∧ AllRender deckTransition (index + 1) others := by
  constructor
  · intro all
    refine ⟨all 0 first rfl, fun position slide present => ?_⟩
    rw [Nat.add_right_comm]
    exact all (position + 1) slide present
  · intro given position slide present
    obtain ⟨head, tail⟩ := given
    cases position with
    | zero =>
        obtain rfl : first = slide := by simpa using present
        exact head
    | succ position =>
        rw [← Nat.add_assoc, Nat.add_right_comm]
        exact tail position slide present

theorem firstFailure_cons_of_ok {text : String} {failure : SlideFailure}
    (rendered : Markup.slide first index deckTransition = .ok text) :
    FirstFailure deckTransition index (first :: others) failure ↔
      FirstFailure deckTransition (index + 1) others failure := by
  constructor
  · intro given
    obtain ⟨position, slide, present, failed, number, before⟩ := given
    cases position with
    | zero =>
        obtain rfl : first = slide := by simpa using present
        rw [Nat.add_zero, rendered] at failed
        simp at failed
    | succ position =>
        refine ⟨position, slide, present, ?_, ?_, ?_⟩
        · rwa [Nat.add_right_comm]
        · omega
        · exact (allRender_cons.mp before).2
  · intro given
    obtain ⟨position, slide, present, failed, number, before⟩ := given
    refine ⟨position + 1, slide, present, ?_, ?_, ?_⟩
    · rwa [← Nat.add_assoc, Nat.add_right_comm]
    · omega
    · exact allRender_cons.mpr ⟨⟨text, rendered⟩, before⟩

theorem firstFailure_cons_of_error {missing : Missing} {failure : SlideFailure}
    (failed : Markup.slide first index deckTransition = .error missing) :
    FirstFailure deckTransition index (first :: others) failure ↔
      failure = ⟨index + 1, missing⟩ := by
  constructor
  · intro given
    obtain ⟨position, slide, present, slideFailed, number, before⟩ := given
    cases position with
    | zero =>
        obtain rfl : first = slide := by simpa using present
        rw [Nat.add_zero, failed] at slideFailed
        obtain rfl : missing = failure.cause := Except.error.inj slideFailed
        cases failure
        simpa using number
    | succ position =>
        obtain ⟨text, rendered⟩ := (allRender_cons.mp before).1
        rw [failed] at rendered
        simp at rendered
  · intro equal
    subst equal
    exact ⟨0, first, rfl, failed, rfl, fun position slide present => by simp at present⟩

theorem slidesFrom_of_ok {text : String}
    (rendered : Markup.slide first index deckTransition = .ok text) :
    slidesFrom isolate deckTransition index (first :: others) = do
      return text :: (← slidesFrom isolate deckTransition (index + 1) others) := by
  rw [slidesFrom, slideOrFailure, rendered]
  rfl

theorem slidesFrom_of_error {missing : Missing}
    (failed : Markup.slide first index deckTransition = .error missing) :
    slidesFrom false deckTransition index (first :: others) = .error ⟨index + 1, missing⟩ := by
  rw [slidesFrom, slideOrFailure, failed]
  rfl

theorem slidesFrom_isolated_of_error {missing : Missing}
    (failed : Markup.slide first index deckTransition = .error missing) :
    slidesFrom true deckTransition index (first :: others) = do
      return failureSlide first index deckTransition ⟨index + 1, missing⟩ ::
        (← slidesFrom true deckTransition (index + 1) others) := by
  rw [slidesFrom, slideOrFailure, failed]
  rfl

/-! ### All slides -/

-- Each of these three is an induction over the slides by the steps above; the index moves along.
theorem slidesFrom_isolated (slides : List Slide) :
    slidesFrom true deckTransition index slides =
      .ok (fragments deckTransition index slides) := by
  induction slides generalizing index with
  | nil => rfl
  | cons first others inductionHypothesis =>
      rw [fragments_cons, fragment]
      cases rendered : Markup.slide first index deckTransition with
      | ok text =>
          rw [slidesFrom_of_ok rendered, inductionHypothesis]
          rfl
      | error missing =>
          rw [slidesFrom_isolated_of_error rendered, inductionHypothesis]
          rfl

theorem slidesFrom_ok_iff (slides : List Slide) (texts : List String) :
    slidesFrom false deckTransition index slides = .ok texts ↔
      AllRender deckTransition index slides ∧ texts = fragments deckTransition index slides := by
  induction slides generalizing index texts with
  | nil =>
      have all : AllRender deckTransition index [] := fun position slide present => by
        simp at present
      simp [slidesFrom, fragments, all, eq_comm]
  | cons first others inductionHypothesis =>
      rw [allRender_cons, fragments_cons, fragment]
      cases rendered : Markup.slide first index deckTransition with
      | ok text =>
          have renders : Renders deckTransition index first := ⟨text, rendered⟩
          rw [slidesFrom_of_ok rendered, and_iff_right renders]
          cases behind : slidesFrom false deckTransition (index + 1) others with
          | ok otherTexts =>
              obtain ⟨all, rfl⟩ := (inductionHypothesis otherTexts).mp behind
              show Except.ok _ = Except.ok texts ↔ _
              rw [Except.ok.injEq, and_iff_right all, eq_comm]
          | error failure =>
              have not_all : ¬AllRender deckTransition (index + 1) others := fun all => by
                rw [(inductionHypothesis _).mpr ⟨all, rfl⟩] at behind
                simp at behind
              show Except.error failure = Except.ok texts ↔ _
              simp [not_all]
      | error missing =>
          have failing : ¬Renders deckTransition index first := by
            intro given
            obtain ⟨text, renders⟩ := given
            rw [rendered] at renders
            simp at renders
          rw [slidesFrom_of_error rendered]
          simp [failing]

theorem slidesFrom_error_iff (slides : List Slide) (failure : SlideFailure) :
    slidesFrom false deckTransition index slides = .error failure ↔
      FirstFailure deckTransition index slides failure := by
  induction slides generalizing index with
  | nil => simp [slidesFrom, FirstFailure]
  | cons first others inductionHypothesis =>
      cases rendered : Markup.slide first index deckTransition with
      | ok text =>
          rw [slidesFrom_of_ok rendered, firstFailure_cons_of_ok rendered, ← inductionHypothesis]
          cases slidesFrom false deckTransition (index + 1) others with
          | ok texts =>
              show Except.ok _ = Except.error failure ↔ Except.ok texts = Except.error failure
              simp
          | error other => exact Iff.rfl
      | error missing =>
          rw [slidesFrom_of_error rendered, firstFailure_cons_of_error rendered]
          simp [eq_comm]

/-! ### How fragments begin -/

/-- The first of several optional names that is there and not empty. -/
def firstPresent (names : List (Option String)) : Option String :=
  names.findSome? fun name => name.filter (· ≠ "")

/-- The classes of a fragment in front of that of its transition. -/
def frontClasses (index : Nat) (failed : Bool) : List String :=
  "slide" :: ((if index = 0 then ["active"] else []) ++ if failed then ["slide-error"] else [])

/-- The text of the class attribute of a fragment. -/
def classText (index : Nat) (failed : Bool) (name : String) : String :=
  String.join ((frontClasses index failed).map (· ++ " ")) ++ transitionClass name

def opening (index : Nat) (failed : Bool) (name : String) : String :=
  "<div class=\"" ++ classText index failed name ++ "\" data-transition=\"" ++ name ++ "\">\n"

/-- What is read of the tag that a fragment begins with. White space in the name of the transition
parts its class, and a quote ends the attributes that the name is written into. -/
structure Opens (index : Nat) (failed : Bool) (name text : String) : Prop where
  all : classes text = frontClasses index failed ++ words (upToQuote (transitionClass name))
  first : (classes text).head? = some "slide"
  active : Spaceless name → ("active" ∈ classes text ↔ index = 0)
  transition : Quoteless name → attribute? "data-transition" text = some name
  named : Spaceless name → Quoteless name →
    (if name = "none" then "no-transition" else "transition-" ++ name) ∈ classes text

theorem firstPresent_transition (slide : Slide) (deckTransition : Option String) :
    firstPresent [slide.transition, deckTransition, some "fade"] =
      some (transition slide deckTransition) := by
  have own : ∀ name : Option String, name.filter (· ≠ "") = present name := by
    intro name
    cases name <;> simp [present, Option.filter]
  simp only [firstPresent, List.findSome?_cons, own, transition]
  cases present slide.transition with
  | some name => rfl
  | none => cases present deckTransition <;> rfl

theorem classText_eq (index : Nat) (failed : Bool) (name : String) :
    classText index failed name =
      "slide" ++ (if index = 0 then " active" else "") ++ (if failed then " slide-error" else "") ++
        " " ++ transitionClass name := by
  unfold classText frontClasses
  apply String.toList_injective
  by_cases start : index = 0 <;> cases failed <;> simp [start, String.join_cons]

theorem frame_eq (slide : Slide) (index : Nat) (deckTransition : Option String) (failed : Bool)
    (body : String) :
    frame slide index deckTransition (if failed then " slide-error" else "") body =
      opening index failed (transition slide deckTransition) ++ body ++ "</div>\n" := by
  unfold frame opening
  rw [classText_eq]
  apply String.toList_injective
  simp [line, element, openTag, closeTag, attributeText, String.join]

/-- What stands in the place of a slide below the tag, with the number and the failure of the
slide. -/
def failureBody (index : Nat) (missing : Missing) : String :=
  "<h2>Slide " ++ toString (index + 1) ++ " could not be rendered</h2>\n" ++
    "<div class=\"content\">\n" ++
    codeBlock "plaintext"
      ("slide " ++ toString (index + 1) ++ ": " ++ missing.owner ++
        " is missing required field \x60" ++ missing.field ++ "\x60") ++
    "\n</div>\n"

/-- What a fragment is: a rendered slide, or a slide that carries the failure. Both begin with the
same tag, apart from the class of failing slides. -/
inductive IsFragment (deckTransition : Option String) (index : Nat) (slide : Slide)
    (name : String) : Bool → String → Prop where
  | rendered {text body : String} (rendered : Markup.slide slide index deckTransition = .ok text)
      (whole : text = opening index false name ++ body ++ "</div>\n") :
      IsFragment deckTransition index slide name false text
  | failed {missing : Missing}
      (failed : Markup.slide slide index deckTransition = .error missing) :
      IsFragment deckTransition index slide name true
        (opening index true name ++ failureBody index missing ++ "</div>\n")

theorem slide_eq_of_ok {slide : Slide} {text : String}
    (rendered : Markup.slide slide index deckTransition = .ok text) :
    ∃ body, text = frame slide index deckTransition "" body := by
  unfold Markup.slide at rendered
  cases layoutEq : layout slide with
  | ok body =>
      rw [layoutEq] at rendered
      exact ⟨body, (Except.ok.inj rendered).symm⟩
  | error missing =>
      rw [layoutEq] at rendered
      exact nomatch rendered

theorem failureSlide_eq (slide : Slide) (index : Nat) (deckTransition : Option String)
    (missing : Missing) :
    failureSlide slide index deckTransition ⟨index + 1, missing⟩ =
      frame slide index deckTransition " slide-error" (failureBody index missing) := by
  unfold failureSlide failureBody
  apply congrArg (frame slide index deckTransition " slide-error")
  have message : SlideFailure.message ⟨index + 1, missing⟩ =
      "slide " ++ toString (index + 1) ++ ": " ++ missing.owner ++
        " is missing required field \x60" ++ missing.field ++ "\x60" := by
    simp only [SlideFailure.message, Missing.message, String.append_assoc]
  rw [message]
  apply String.toList_injective
  simp [box, classed, defaultLanguage, line, element, openTag, closeTag, attributeText, String.join]

theorem isFragment_fragment (deckTransition : Option String) (index : Nat) (slide : Slide) :
    ∃ failed, IsFragment deckTransition index slide (transition slide deckTransition) failed
      (fragment deckTransition index slide) := by
  unfold fragment
  cases rendered : Markup.slide slide index deckTransition with
  | ok text =>
      obtain ⟨body, whole⟩ := slide_eq_of_ok rendered
      have framed := frame_eq slide index deckTransition false body
      exact ⟨false, .rendered rendered (whole.trans framed)⟩
  | error missing =>
      have framed := frame_eq slide index deckTransition true (failureBody index missing)
      rw [if_pos rfl, ← failureSlide_eq] at framed
      show ∃ failed, IsFragment _ index slide _ failed (failureSlide slide index deckTransition _)
      rw [framed]
      exact ⟨true, .failed rendered⟩

/-! ### What is read of a fragment -/

section Reading

variable {failed : Bool} {name : String}

theorem isWord_frontClasses :
    ∀ word ∈ frontClasses index failed, word ≠ "" ∧ Spaceless word := by
  unfold frontClasses
  by_cases start : index = 0 <;> cases failed <;> simp only [start] <;> decide

theorem quoteless_front :
    Quoteless (String.join ((frontClasses index failed).map (· ++ " "))) := by
  unfold frontClasses
  by_cases start : index = 0 <;> cases failed <;> simp only [start] <;> decide

theorem active_mem_frontClasses : "active" ∈ frontClasses index failed ↔ index = 0 := by
  by_cases start : index = 0 <;> cases failed <;> simp [frontClasses, start]

theorem upToQuote_transitionClass (name : String) :
    upToQuote (transitionClass name) =
      if name = "none" then "no-transition" else "transition-" ++ upToQuote name := by
  unfold transitionClass
  split
  · decide
  · exact upToQuote_append (by decide) name

theorem hyphen_mem_transitionClass (name : String) :
    '-' ∈ (upToQuote (transitionClass name)).toList := by
  rw [upToQuote_transitionClass]
  split
  · decide
  · rw [String.toList_append]
    exact List.mem_append_left _ (by decide)

theorem transitionClass_ne {word : String} (noHyphen : '-' ∉ word.toList) (name : String) :
    upToQuote (transitionClass name) ≠ word := by
  intro equal
  have member := hyphen_mem_transitionClass name
  rw [equal] at member
  exact noHyphen member

theorem words_transitionClass (spaceless : Spaceless name) :
    words (upToQuote (transitionClass name)) = [upToQuote (transitionClass name)] := by
  apply words_of_spaceless (transitionClass_ne (by decide) name)
  rw [upToQuote_transitionClass]
  split
  · decide
  · exact .append (by decide) spaceless.upToQuote

theorem quoteless_transitionClass (quoteless : Quoteless name) :
    Quoteless (transitionClass name) := by
  unfold transitionClass
  split
  · decide
  · exact .append (by decide) quoteless

theorem cleanKey_class : CleanKey "class" :=
  ⟨by decide, by decide, by decide, by decide⟩

theorem cleanKey_dataTransition : CleanKey "data-transition" :=
  ⟨by decide, by decide, by decide, by decide⟩

theorem opening_eq (index : Nat) (failed : Bool) (name : String) :
    opening index failed name =
      openTag "div" [("class", classText index failed name), ("data-transition", name)] ++
        "\n" := by
  apply String.toList_injective
  simp [opening, openTag, attributeText, String.join]

theorem classes_opening (index : Nat) (failed : Bool) (name rest : String) :
    classes (opening index failed name ++ rest) =
      frontClasses index failed ++ words (upToQuote (transitionClass name)) := by
  rw [opening_eq, String.append_assoc, classes, attribute?_first cleanName_div cleanKey_class,
    Option.getD_some, classText, upToQuote_append quoteless_front, words_join isWord_frontClasses]

theorem opens_opening (index : Nat) (failed : Bool) (name rest : String) :
    Opens index failed name (opening index failed name ++ rest) := by
  have all := classes_opening index failed name rest
  refine ⟨all, by rw [all]; rfl, ?_, ?_, ?_⟩
  · intro spaceless
    have other : upToQuote (transitionClass name) ≠ "active" := transitionClass_ne (by decide) name
    rw [all, words_transitionClass spaceless, List.mem_append, active_mem_frontClasses,
      List.mem_singleton, or_iff_left other.symm]
  · intro quoteless
    have classQuoteless : Quoteless (classText index failed name) :=
      quoteless_front.append (quoteless_transitionClass quoteless)
    rw [opening_eq, String.append_assoc, attribute?, tagAttributes_openTag cleanName_div]
    · rfl
    · simp only [List.forall_mem_cons]
      exact ⟨⟨cleanKey_class, classQuoteless⟩, ⟨cleanKey_dataTransition, quoteless⟩,
        List.forall_mem_nil _⟩
  · intro spaceless quoteless
    rw [all, words_transitionClass spaceless,
      upToQuote_of_quoteless (quoteless_transitionClass quoteless)]
    exact List.mem_append_right _ (List.mem_singleton_self _)

theorem IsFragment.opens {deckTransition : Option String} {slide : Slide} {text : String}
    (isFragment : IsFragment deckTransition index slide name failed text) :
    Opens index failed name text := by
  cases isFragment with
  | rendered _ whole =>
      rw [whole, String.append_assoc]
      exact opens_opening index false name _
  | failed _ =>
      rw [String.append_assoc]
      exact opens_opening index true name _

end Reading

theorem slides_policy (deck : SlideDeck.Deck) (config : Page.Config) :
    Page.slides deck { config with isolateFailures := true } =
        .ok (fragments deck.transition 0 deck.slides) ∧
      (∀ texts, Page.slides deck { config with isolateFailures := false } = .ok texts ↔
        AllRender deck.transition 0 deck.slides ∧
          texts = fragments deck.transition 0 deck.slides) ∧
      (∀ failure, Page.slides deck { config with isolateFailures := false } = .error failure ↔
        FirstFailure deck.transition 0 deck.slides failure) ∧
      (∀ index : Nat, (fragments deck.transition 0 deck.slides)[index]? =
        deck.slides[index]?.map (fragment deck.transition index)) ∧
      ∀ index slide, ∃ name failed,
        firstPresent [slide.transition, deck.transition, some "fade"] = some name ∧
          IsFragment deck.transition index slide name failed
            (fragment deck.transition index slide) ∧
          Opens index failed name (fragment deck.transition index slide) := by
  refine ⟨slidesFrom_isolated _, slidesFrom_ok_iff _, slidesFrom_error_iff _, ?_, ?_⟩
  · intro index
    simp [fragments]
  · intro index slide
    obtain ⟨failed, isFragment⟩ := isFragment_fragment deck.transition index slide
    exact ⟨transition slide deck.transition, failed,
      firstPresent_transition slide deck.transition, isFragment, isFragment.opens⟩

/-- A slide with nothing on it but the name of a transition. -/
def emptySlide (name : Option String) : Slide :=
  ⟨none, none, name, .plain none⟩

/-- An image slide without an image, and with the empty name in place of a transition. -/
def imagelessSlide : Slide :=
  { emptySlide (some "") with layout := .image ⟨.center, none, none, none, .left, none, none⟩ }

def imagelessDeck : SlideDeck.Deck :=
  { SlideDeck.Deck.empty with
    transition := some "zoom"
    slides := [emptySlide none, imagelessSlide, emptySlide (some "none")] }

theorem slides_policy_imageless :
    Spaceless "zoom" ∧ Quoteless "zoom" ∧ ∃ first second third,
      Page.slides imagelessDeck { Page.Config.default with isolateFailures := true } =
          .ok [first, second, third] ∧
        "active" ∉ classes second ∧ "transition-zoom" ∈ classes second ∧
          attribute? "data-transition" second = some "zoom" := by
  have spaceless : Spaceless "zoom" := by decide
  have quoteless : Quoteless "zoom" := by decide
  obtain ⟨isolated, -, -, -, fragmentOf⟩ := slides_policy imagelessDeck Page.Config.default
  obtain ⟨name, failed, present, -, opens⟩ := fragmentOf 1 imagelessSlide
  obtain rfl : "zoom" = name := Option.some.inj present
  refine ⟨spaceless, quoteless, _, _, _, isolated, ?_, ?_, opens.transition quoteless⟩
  · exact fun member => absurd ((opens.active spaceless).mp member) (by decide)
  · exact opens.named spaceless quoteless

/-- White space in the name of a transition makes a slide active that is not the first, and a quote
cuts the name off. -/
theorem transition_names_misread :
    (∃ text, Markup.slide (emptySlide (some "x active")) 1 none = .ok text ∧
        "active" ∈ classes text) ∧
      ∃ text, Markup.slide (emptySlide (some "x\"y")) 1 none = .ok text ∧
        attribute? "data-transition" text = some "x" ∧ "transition-x\"y" ∉ classes text :=
  ⟨⟨_, rfl, by decide +kernel⟩, _, rfl, by decide +kernel, by decide +kernel⟩

end SlideDeck.Markup
