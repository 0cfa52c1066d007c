import SlideDeck.Markup.Content
import SlideDeck.Proofs.Rendering.CleanTexts

/-!
Contract: what all bodies have in common if their authors wrote no tags.

Cards and callouts hold bodies to any depth. A property that goes from texts to the elements of
bodies around them is one of all bodies, whatever they hold.

Owns:
- `Yields`, properties of what is rendered;
- `Encloses`, one element around a text;
- `Composed` properties, with one lemma for each kind of block and `Composed.optionalContent` for
  bodies;
- nested texts as such a property.

Does not own: which renderings succeed.
-/


namespace SlideDeck.Markup

open SlideDeck.Deck

/-! ### Results of rendering -/

/-- A property of what a rendering yields, if it yields anything. -/
def Yields {α : Type} (property : α → Prop) (rendering : Rendering α) : Prop :=
  ∀ value, rendering = .ok value → property value

namespace Yields

variable {α β : Type} {property : α → Prop} {result : β → Prop} {rendering : Rendering α}

theorem ok {value : α} (holds : property value) : Yields property (.ok value) := by
  intro other same
  exact Except.ok.inj same ▸ holds

theorem bind {next : α → Rendering β} (before : Yields property rendering)
    (after : ∀ value, property value → Yields result (next value)) :
    Yields result (rendering >>= next) := by
  cases rendering with
  | ok value => exact after value (before value rfl)
  | error missing => exact nofun

theorem map {write : α → β} (before : Yields property rendering)
    (after : ∀ value, property value → result (write value)) :
    Yields result (rendering >>= fun value => pure (write value)) :=
  before.bind fun value holds => ok (after value holds)

theorem required {field : Option α} {missing : Missing} (holds : ∀ value ∈ field, property value) :
    Yields property (required field missing) := by
  cases field with
  | none => exact nofun
  | some value => exact ok (holds value rfl)

theorem mapM {write : α → Rendering β} {items : List α}
    (each : ∀ item ∈ items, Yields result (write item)) :
    Yields (fun texts => ∀ text ∈ texts, result text) (items.mapM write) := by
  induction items with
  | nil => exact ok (by simp)
  | cons first items inductionHypothesis =>
      rw [List.forall_mem_cons] at each
      rw [List.mapM_cons]
      refine each.1.bind fun text holds => (inductionHypothesis each.2).map fun texts all => ?_
      exact List.forall_mem_cons.mpr ⟨holds, all⟩

end Yields

/-! ### Elements with attributes -/

/-- A text is one element around a text with a property. -/
def Encloses (property : String → Prop) (name : String) (attributes : List (String × String))
    (text : String) : Prop :=
  ∃ body, property body ∧ text = element name attributes body

section Attributes

variable {name className style body : String}

theorem Nested.classed (nested : Nested body) (untagged : Untagged className)
    (noSlide : ¬"slide ".toList <+: className.toList) :
    Nested (classed "div" className body) :=
  nested.container untagged noSlide untaggedValues_nil

theorem Encloses.classed {text : String}
    (encloses : Encloses Nested "div" [("class", className)] text) (untagged : Untagged className)
    (noSlide : ¬"slide ".toList <+: className.toList) : Nested text := by
  obtain ⟨body, nested, rfl⟩ := encloses
  exact nested.classed untagged noSlide

theorem Nested.styled (nested : Nested body) (clean : CleanName name)
    (untagged : Untagged style) (noMark : name ≠ "div" ∧ name ≠ "span") :
    Nested (styled name style body) :=
  nested.plainElement clean (.single (by decide) untagged) noMark

theorem untaggedValues_styleAttribute {style : Option String}
    (untagged : ∀ text ∈ style, Untagged text) : UntaggedValues (styleAttribute style) :=
  untaggedValues_optional (by decide) untagged

end Attributes

/-! ### Texts of the author -/

section Author

theorem untagged_resolveColor {color : String} (untagged : Untagged color) :
    Untagged (resolveColor color) := by
  unfold resolveColor
  split <;> first | decide | exact untagged

theorem untagged_present_getD {optional : Option String} {default : String}
    (untagged : ∀ text ∈ optional, Untagged text) (otherwise : Untagged default) :
    Untagged ((present optional).getD default) := by
  cases shown : present optional with
  | none => exact otherwise
  | some text => exact untagged text (Option.filter_eq_some_iff.mp shown).1

theorem untagged_calloutStyle {style : Option String} (untagged : ∀ text ∈ style, Untagged text) :
    Untagged (calloutStyle style) := by
  unfold calloutStyle
  rw [untagged_append]
  refine ⟨by decide, ?_⟩
  cases style with
  | none => decide
  | some text =>
      rw [Option.elim_some, untagged_append]
      exact ⟨by decide, untagged text rfl⟩

/-- What an optional list has in it, an absent one being empty. -/
theorem forall_mem_getD {α : Type} {property : α → Prop} {optional : Option (List α)}
    (all : ∀ items ∈ optional, ∀ item ∈ items, property item) :
    ∀ item ∈ optional.getD [], property item := by
  cases optional with
  | none => simp
  | some items => exact all items rfl

end Author

/-! ### Properties of bodies -/

/-- The elements of bodies that have no class. -/
def bodyNames : List String :=
  ["p", "ul", "li", "h3", "strong", "small"]

/-- The classes in bodies. -/
def bodyClasses : List String :=
  ["card", "quote", "flow", "flow-item", "flow-arrow"]

/-- A property that goes from a text to the elements of bodies around it. -/
structure Composed (property : String → Prop) : Prop extends Formattable property where
  element {name body : String} {attributes : List (String × String)} :
    name ∈ bodyNames → UntaggedValues attributes → property body →
      property (element name attributes body)
  container {className body : String} {attributes : List (String × String)} :
    className ∈ bodyClasses → UntaggedValues attributes → property body →
      property (Markup.element "div" (("class", className) :: attributes) body)

theorem Nested.composed : Composed Nested where
  toFormattable := formattable_nested
  element {name _ _} known values nested := by
    have names : ∀ name ∈ bodyNames, CleanName name ∧ name ≠ "div" ∧ name ≠ "span" := by decide
    exact nested.plainElement (names name known).1 values (names name known).2
  container {className _ _} known values nested := by
    have classes : ∀ className ∈ bodyClasses,
        Untagged className ∧ ¬"slide ".toList <+: className.toList := by decide
    exact nested.container (classes className known).1 (classes className known).2 values

/-- The class by which an item of a flow diagram is told. -/
def flowItemClass : FlowItem → String
  | .arrow _ => "flow-arrow"
  | .box _ => "flow-item"

namespace Composed

variable {property : String → Prop}

/-! ### Blocks -/

theorem bare (composed : Composed property) {name body : String} (known : name ∈ bodyNames)
    (holds : property body) : property (Markup.element name [] body) :=
  composed.element known untaggedValues_nil holds

theorem paragraph (composed : Composed property) {text : String} (prose : UntaggedProse text) :
    property (paragraph text) :=
  composed.bare (by decide) (composed.formatText prose)

theorem itemList (composed : Composed property) {attributes : List (String × String)}
    {items : List String} (values : UntaggedValues attributes)
    (prose : ∀ item ∈ items, UntaggedProse item) : property (itemList attributes items) :=
  composed.element (by decide) values <| composed.joinMap fun item member =>
    composed.bare (by decide) (composed.formatText (prose item member))

theorem bullets (composed : Composed property) {list : Bullets} (clean : list.Clean) :
    Yields property (bullets list) := by
  have color : UntaggedValues
      (list.style.toList.map fun style => ("style", "color: " ++ resolveColor style ++ ";")) := by
    refine untaggedValues_optional (by decide) fun style present => ?_
    rw [untagged_append, untagged_append]
    exact ⟨⟨by decide, untagged_resolveColor (clean.style style present)⟩, by decide⟩
  exact (Yields.required clean.items).map fun items prose => composed.itemList color prose

theorem listing (composed : Composed property) {shown : Listing} (clean : shown.Clean) :
    property (listing shown) := by
  refine composed.codeBlock ?_ _
  cases language : shown.language with
  | none => exact (by decide : Untagged defaultLanguage)
  | some name => exact clean.language name language

theorem lineBreak (composed : Composed property) : property (openTag "br" []) :=
  composed.tag (by decide : "<br>".toList ∈ Inline.MixedText.tags)

theorem flowBox (composed : Composed property) {box : FlowBox} (clean : box.Clean) :
    Encloses property "div" [("class", "flow-item")] (flowBox box) := by
  have title : property (Markup.whenPresent box.title (Markup.element "strong" [] ·)) :=
    composed.whenPresent fun text present =>
      composed.bare (by decide) (composed.untagged (clean.title text present))
  have subtitle : property (Markup.whenPresent box.subtitle fun subtitle =>
      openTag "br" [] ++ styled "small" ("color: " ++ mutedColor ++ ";") subtitle) :=
    composed.whenPresent fun text present =>
      composed.append composed.lineBreak (composed.element (by decide)
        (.single (by decide) (by decide)) (composed.untagged (clean.subtitle text present)))
  have content : property
      (Markup.whenPresent box.content fun content => openTag "br" [] ++ formatText content) :=
    composed.whenPresent fun text present =>
      composed.append composed.lineBreak (composed.formatText (clean.content text present))
  exact ⟨_, composed.append (composed.append title subtitle) content, rfl⟩

theorem flowItem (composed : Composed property) {item : FlowItem} (clean : item.Clean) :
    Encloses property "div" [("class", flowItemClass item)] (flowItem item) := by
  cases clean with
  | arrow untagged =>
      have glyph : Untagged ((present _).getD defaultArrow) :=
        untagged_present_getD untagged (by decide)
      exact ⟨_, composed.untagged glyph, rfl⟩
  | box clean => exact composed.flowBox clean

/-- The items of a flow diagram, one on each line. -/
theorem flowItems (composed : Composed property) {items : List FlowItem}
    (clean : ∀ item ∈ items, item.Clean) :
    property (String.join (items.map fun item => Markup.line (Markup.flowItem item))) := by
  refine composed.joinMap fun item member => composed.line ?_
  have known : flowItemClass item ∈ bodyClasses := by
    cases item <;> simp [flowItemClass, bodyClasses]
  obtain ⟨body, holds, written⟩ := composed.flowItem (clean item member)
  rw [written]
  exact composed.container known untaggedValues_nil holds

theorem flow (composed : Composed property) {diagram : Flow} (clean : diagram.Clean) :
    property (flow diagram) := by
  have shown := forall_mem_getD clean.items
  unfold Markup.flow
  generalize diagram.items.getD [] = items at shown
  cases items with
  | nil => exact composed.empty
  | cons first others =>
      exact composed.container (by decide) (untaggedValues_styleAttribute clean.style)
        (composed.append composed.newline (composed.flowItems shown))

theorem heading (composed : Composed property) {title : Option String}
    (untagged : ∀ text ∈ title, Untagged text) :
    property (Markup.whenPresent title fun text => Markup.line (Markup.element "h3" [] text)) :=
  composed.whenPresent fun text present =>
    composed.line (composed.bare (by decide) (composed.untagged (untagged text present)))

theorem cardBox (composed : Composed property) {attributes : List (String × String)}
    {title : Option String} {body : String} (values : UntaggedValues attributes)
    (untagged : ∀ text ∈ title, Untagged text) (holds : property body) :
    property (cardBox attributes title body) :=
  composed.container (by decide) values (composed.append
    (composed.append composed.newline (composed.heading untagged)) (composed.blockLine holds))

/-! ### Bodies -/

-- One case for each constructor; what a body or block holds is clean and smaller.
mutual

theorem content (composed : Composed property) :
    ∀ body : Content, body.Clean → Yields property (content body)
  | .text text, clean => by
      rw [Markup.content]
      cases clean with
      | text prose => exact .ok (composed.paragraph prose)
  | .blocks items, clean => by
      rw [Markup.content]
      cases clean with
      | blocks all => exact (composed.blocks items all).map fun _ holds => composed.lines holds
  | .other, _ => by
      rw [Markup.content]
      exact .ok composed.empty

theorem optionalContent (composed : Composed property) :
    ∀ body : Option Content, (∀ content ∈ body, content.Clean) →
      Yields property (optionalContent body)
  | none, _ => by
      rw [Markup.optionalContent]
      exact .ok composed.empty
  | some (.text text), clean => by
      rw [Markup.optionalContent]
      apply Yields.ok
      split
      · exact composed.empty
      · cases clean (.text text) rfl with
        | text prose => exact composed.paragraph prose
  | some (.blocks items), clean => by
      rw [Markup.optionalContent]
      · exact composed.content (.blocks items) (clean _ rfl)
      · simp
  | some .other, clean => by
      rw [Markup.optionalContent]
      · exact composed.content .other (clean _ rfl)
      · simp

theorem blocks (composed : Composed property) :
    ∀ items : List Block, (∀ item ∈ items, item.Clean) →
      Yields (fun texts => ∀ text ∈ texts, property text) (blocks items)
  | [], _ => by
      rw [Markup.blocks]
      exact .ok (by simp)
  | first :: others, clean => by
      rw [List.forall_mem_cons] at clean
      rw [Markup.blocks]
      refine (composed.block first clean.1).bind fun text holds => ?_
      exact (composed.blocks others clean.2).map fun texts all =>
        List.forall_mem_cons.mpr ⟨holds, all⟩

theorem block (composed : Composed property) :
    ∀ item : Block, item.Clean → Yields property (block item)
  | .paragraph text, clean => by
      rw [Markup.block]
      cases clean with
      | paragraph prose => exact .ok (composed.paragraph prose)
  | .list list, clean => by
      rw [Markup.block]
      cases clean with
      | list clean => exact composed.bullets clean
  | .card item, clean => by
      rw [Markup.block]
      cases clean with
      | card clean => exact composed.card item clean
  | .quote text, clean => by
      rw [Markup.block]
      cases clean with
      | quote prose =>
          have quoted : UntaggedProse (text.getD "") := by
            cases text with
            | none => exact untaggedProse_of_untagged (by decide)
            | some text => exact prose text rfl
          exact .ok (composed.container (by decide) untaggedValues_nil
            (composed.formatText quoted))
  | .callout body style, clean => by
      rw [Markup.block]
      cases clean with
      | callout bodyClean styleUntagged =>
          have values : UntaggedValues [("style", calloutStyle style)] :=
            .single (by decide) (untagged_calloutStyle styleUntagged)
          exact (composed.optionalContent body bodyClean).map fun text holds =>
            composed.cardBox values (by simp) holds
  | .code item, clean => by
      rw [Markup.block]
      cases clean with
      | code clean => exact .ok (composed.listing clean)
  | .flow diagram, clean => by
      rw [Markup.block]
      cases clean with
      | flow clean => exact .ok (composed.flow clean)
  | .columns _ _, _ | .unknown, _ => by
      rw [Markup.block]
      exact .ok composed.empty

theorem card (composed : Composed property) :
    ∀ item : Card, item.Clean → Yields property (card item)
  | ⟨title, style, body⟩, clean => by
      rw [Markup.card]
      cases clean with
      | card titleUntagged styleUntagged bodyClean =>
          exact (composed.optionalContent body bodyClean).map fun text holds =>
            composed.cardBox (untaggedValues_styleAttribute styleUntagged) titleUntagged holds

end

theorem blockLines (composed : Composed property) {items : List Block}
    (clean : ∀ item ∈ items, item.Clean) : Yields property (blockLines items) :=
  (composed.blocks items clean).map fun _ holds => composed.lines holds

end Composed

end SlideDeck.Markup
