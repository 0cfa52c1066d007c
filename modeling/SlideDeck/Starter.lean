/-!
Contract: the deck that a new presentation starts from.
-/

namespace SlideDeck

/-- The lines of the starter deck, without the line breaks behind them. -/
def starterLines : List String :=
  [
    "title: \"My Presentation\"",
    "theme: light  # or leave empty for dark theme",
    "",
    "slides:",
    "  # Title slide",
    "  - type: hero",
    "    title: \"Welcome\"",
    "    subtitle: \"My first presentation with Slayd\"",
    "    logo: \"🚀\"",
    "",
    "  # Content slide",
    "  - type: default",
    "    title: \"About This Presentation\"",
    "    content:",
    "      - \"This is a starter template\"",
    "      - \"Edit this YAML file to create your slides\"",
    "      - type: list",
    "        items:",
    "          - \"Multiple slide types available\"",
    "          - \"Simple markdown formatting\"",
    "          - \"Easy to customize\"",
    "",
    "  # Two-column slide",
    "  - type: two-column",
    "    title: \"Features\"",
    "    left:",
    "      title: \"Easy\"",
    "      content:",
    "        - \"Write in YAML\"",
    "        - \"No HTML needed\"",
    "    right:",
    "      title: \"Powerful\"",
    "      content:",
    "        - \"Multiple layouts\"",
    "        - \"Custom themes\"",
    "",
    "  # Closing slide",
    "  - type: hero",
    "    title: \"Thank You!\"",
    "    subtitle: \"Start editing to make it yours\"",
    "    logo: \"✨\""
  ]

/-- A small deck that shows the main kinds of slides. -/
def starterDeck : String :=
  String.join (starterLines.map (· ++ "\n"))

end SlideDeck
