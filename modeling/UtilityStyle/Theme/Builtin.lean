import UtilityStyle.Theme.Scale

namespace UtilityStyle.Theme

open Scale

def shadesOf (name : String) (hexes : List String) : String × Json :=
  (name, .object ((List.range hexes.length).zipWith
    (fun n hex => (toString ((n + 1) * 100), .string hex)) hexes))

def baseColors : Fields :=
  texts [
    ("transparent", "transparent"), ("current", "currentColor"), ("black", "#000"),
    ("white", "#fff")] ++ [
    shadesOf "gray" [
      "#f7fafc", "#edf2f7", "#e2e8f0", "#cbd5e0", "#a0aec0", "#718096", "#4a5568", "#2d3748",
      "#1a202c"],
    shadesOf "red" [
      "#fff5f5", "#fed7d7", "#feb2b2", "#fc8181", "#f56565", "#e53e3e", "#c53030", "#9b2c2c",
      "#742a2a"],
    shadesOf "orange" [
      "#fffaf0", "#feebc8", "#fbd38d", "#f6ad55", "#ed8936", "#dd6b20", "#c05621", "#9c4221",
      "#7b341e"],
    shadesOf "yellow" [
      "#fffff0", "#fefcbf", "#faf089", "#f6e05e", "#ecc94b", "#d69e2e", "#b7791f", "#975a16",
      "#744210"],
    shadesOf "green" [
      "#f0fff4", "#c6f6d5", "#9ae6b4", "#68d391", "#48bb78", "#38a169", "#2f855a", "#276749",
      "#22543d"],
    shadesOf "teal" [
      "#e6fffa", "#b2f5ea", "#81e6d9", "#4fd1c5", "#38b2ac", "#319795", "#2c7a7b", "#285e61",
      "#234e52"],
    shadesOf "blue" [
      "#ebf8ff", "#bee3f8", "#90cdf4", "#63b3ed", "#4299e1", "#3182ce", "#2b6cb0", "#2c5282",
      "#2a4365"],
    shadesOf "indigo" [
      "#ebf4ff", "#c3dafe", "#a3bffa", "#7f9cf5", "#667eea", "#5a67d8", "#4c51bf", "#434190",
      "#3c366b"],
    shadesOf "purple" [
      "#faf5ff", "#e9d8fd", "#d6bcfa", "#b794f4", "#9f7aea", "#805ad5", "#6b46c1", "#553c9a",
      "#44337a"],
    shadesOf "pink" [
      "#fff5f7", "#fed7e2", "#fbb6ce", "#f687b3", "#ed64a6", "#d53f8c", "#b83280", "#97266d",
      "#702459"]]

def spacingScale : Fields := texts [
    ("px", "1px"), ("0", "0"), ("1", "0.25rem"), ("2", "0.5rem"), ("3", "0.75rem"), ("4", "1rem"),
    ("5", "1.25rem"), ("6", "1.5rem"), ("8", "2rem"), ("10", "2.5rem"), ("12", "3rem"),
    ("16", "4rem"), ("20", "5rem"), ("24", "6rem"), ("32", "8rem"), ("40", "10rem"),
    ("48", "12rem"), ("56", "14rem"), ("64", "16rem")]

def boxPositions : Fields := texts [
    ("bottom", "bottom"), ("center", "center"), ("left", "left"), ("left-bottom", "left bottom"),
    ("left-top", "left top"), ("right", "right"), ("right-bottom", "right bottom"),
    ("right-top", "right top"), ("top", "top")]

def family (name : String) (faces : List String) : String × Json :=
  (name, .array (faces.map .string))

def families : Fields := [
  family "sans" [
    "system-ui", "-apple-system", "BlinkMacSystemFont", "\"Segoe UI\"", "Roboto",
    "\"Helvetica Neue\"", "Arial", "\"Noto Sans\"", "sans-serif", "\"Apple Color Emoji\"",
    "\"Segoe UI Emoji\"", "\"Segoe UI Symbol\"", "\"Noto Color Emoji\""],
  family "serif" [
    "Georgia", "Cambria", "\"Times New Roman\"", "Times", "serif"],
  family "mono" [
    "Menlo", "Monaco", "Consolas", "\"Liberation Mono\"", "\"Courier New\"", "monospace"]]

def trackTemplates (count : Nat) : Fields :=
  texts [("none", "none")] ++
    upTo count fun n => "repeat(" ++ toString n ++ ", minmax(0, 1fr))"

def trackSpans (count : Nat) : Fields :=
  texts [("auto", "auto")] ++
    ((List.range count).map fun n =>
      let size := toString (n + 1)
      ("span-" ++ size, .string ("span " ++ size ++ " / span " ++ size))) ++
    texts [("span-full", "1 / -1")]

def trackLines (count : Nat) : Fields := texts [("auto", "auto")] ++ upTo count toString

def durations : Fields :=
  [75, 100, 150, 200, 300, 500, 700, 1000].map fun n => (toString n, .string (toString n ++ "ms"))

def plain (name : String) (pairs : List (String × String)) : String × Tokens :=
  (name, .fixed (texts pairs))

/-- The built-in sections with the source of their tokens. A section comes after its source. -/
def builtinSections : List (String × Tokens) := [
  plain "screens" [("sm", "640px"), ("md", "768px"), ("lg", "1024px"), ("xl", "1280px")],
  ("colors", .fixed baseColors),
  ("spacing", .fixed spacingScale),
  plain "opacity" [
    ("0", "0"), ("25", "0.25"), ("50", "0.5"), ("75", "0.75"), ("100", "1")],
  ("backgroundColor", .sameAs "colors"),
  ("backgroundOpacity", .sameAs "opacity"),
  ("backgroundPosition", .fixed boxPositions),
  plain "backgroundSize" [("auto", "auto"), ("cover", "cover"), ("contain", "contain")],
  ("borderColor", .withDefault "colors" "currentColor"),
  ("borderOpacity", .sameAs "opacity"),
  plain "borderRadius" [
    ("none", "0"), ("sm", "0.125rem"), ("default", "0.25rem"), ("md", "0.375rem"),
    ("lg", "0.5rem"), ("full", "9999px")],
  plain "borderWidth" [
    ("default", "1px"), ("0", "0"), ("2", "2px"), ("4", "4px"), ("8", "8px")],
  plain "boxShadow" [
    ("xs", "0 0 0 1px rgba(0, 0, 0, 0.05)"), ("sm", "0 1px 2px 0 rgba(0, 0, 0, 0.05)"),
    ("default", "0 1px 3px 0 rgba(0, 0, 0, 0.1), 0 1px 2px 0 rgba(0, 0, 0, 0.06)"),
    ("md", "0 4px 6px -1px rgba(0, 0, 0, 0.1), 0 2px 4px -1px rgba(0, 0, 0, 0.06)"),
    ("lg", "0 10px 15px -3px rgba(0, 0, 0, 0.1), 0 4px 6px -2px rgba(0, 0, 0, 0.05)"),
    ("xl", "0 20px 25px -5px rgba(0, 0, 0, 0.1), 0 10px 10px -5px rgba(0, 0, 0, 0.04)"),
    ("2xl", "0 25px 50px -12px rgba(0, 0, 0, 0.25)"),
    ("inner", "inset 0 2px 4px 0 rgba(0, 0, 0, 0.06)"),
    ("outline", "0 0 0 3px rgba(66, 153, 225, 0.5)"), ("none", "none")],
  plain "container" [],
  plain "cursor" [
    ("auto", "auto"), ("default", "default"), ("pointer", "pointer"), ("wait", "wait"),
    ("text", "text"), ("move", "move"), ("not-allowed", "not-allowed")],
  ("divideColor", .sameAs "borderColor"),
  ("divideOpacity", .sameAs "borderOpacity"),
  ("divideWidth", .sameAs "borderWidth"),
  plain "fill" [("current", "currentColor")],
  plain "flex" [
    ("1", "1 1 0%"), ("auto", "1 1 auto"), ("initial", "0 1 auto"), ("none", "none")],
  plain "flexGrow" [("0", "0"), ("default", "1")],
  plain "flexShrink" [("0", "0"), ("default", "1")],
  ("fontFamily", .fixed families),
  plain "fontSize" [
    ("xs", "0.75rem"), ("sm", "0.875rem"), ("base", "1rem"), ("lg", "1.125rem"), ("xl", "1.25rem"),
    ("2xl", "1.5rem"), ("3xl", "1.875rem"), ("4xl", "2.25rem"), ("5xl", "3rem"), ("6xl", "4rem")],
  plain "fontWeight" [
    ("hairline", "100"), ("thin", "200"), ("light", "300"), ("normal", "400"), ("medium", "500"),
    ("semibold", "600"), ("bold", "700"), ("extrabold", "800"), ("black", "900")],
  ("gap", .sameAs "spacing"),
  ("gridTemplateColumns", .fixed (trackTemplates 12)),
  ("gridColumn", .fixed (trackSpans 12)),
  ("gridColumnStart", .fixed (trackLines 13)),
  ("gridColumnEnd", .fixed (trackLines 13)),
  ("gridTemplateRows", .fixed (trackTemplates 6)),
  ("gridRow", .fixed (trackSpans 6)),
  ("gridRowStart", .fixed (trackLines 7)),
  ("gridRowEnd", .fixed (trackLines 7)),
  ("height", .around (texts [("auto", "auto")]) "spacing" false
    (texts [("full", "100%"), ("screen", "100vh")])),
  plain "inset" [("0", "0"), ("auto", "auto")],
  plain "letterSpacing" [
    ("tighter", "-0.05em"), ("tight", "-0.025em"), ("normal", "0"), ("wide", "0.025em"),
    ("wider", "0.05em"), ("widest", "0.1em")],
  plain "lineHeight" [
    ("none", "1"), ("tight", "1.25"), ("snug", "1.375"), ("normal", "1.5"), ("relaxed", "1.625"),
    ("loose", "2"), ("3", ".75rem"), ("4", "1rem"), ("5", "1.25rem"), ("6", "1.5rem"),
    ("7", "1.75rem"), ("8", "2rem"), ("9", "2.25rem"), ("10", "2.5rem")],
  plain "listStyleType" [("none", "none"), ("disc", "disc"), ("decimal", "decimal")],
  ("margin", .around (texts [("auto", "auto")]) "spacing" true []),
  plain "maxHeight" [("full", "100%"), ("screen", "100vh")],
  plain "maxWidth" [
    ("none", "none"), ("xs", "20rem"), ("sm", "24rem"), ("md", "28rem"), ("lg", "32rem"),
    ("xl", "36rem"), ("2xl", "42rem"), ("3xl", "48rem"), ("4xl", "56rem"), ("5xl", "64rem"),
    ("6xl", "72rem"), ("full", "100%")],
  plain "minHeight" [("0", "0"), ("full", "100%"), ("screen", "100vh")],
  plain "minWidth" [("0", "0"), ("full", "100%")],
  ("objectPosition", .fixed boxPositions),
  ("order", .fixed (texts [("first", "-9999"), ("last", "9999"), ("none", "0")] ++
    upTo 12 toString)),
  ("padding", .sameAs "spacing"),
  ("placeholderColor", .sameAs "colors"),
  ("placeholderOpacity", .sameAs "opacity"),
  ("space", .around [] "spacing" true []),
  plain "stroke" [("current", "currentColor")],
  plain "strokeWidth" [("0", "0"), ("1", "1"), ("2", "2")],
  ("textColor", .sameAs "colors"),
  ("textOpacity", .sameAs "opacity"),
  ("width", .around (texts [("auto", "auto")]) "spacing" false (texts [
    ("1/2", "50%"), ("1/3", "33.333333%"), ("2/3", "66.666667%"), ("1/4", "25%"), ("2/4", "50%"),
    ("3/4", "75%"), ("1/5", "20%"), ("2/5", "40%"), ("3/5", "60%"), ("4/5", "80%"),
    ("1/6", "16.666667%"), ("2/6", "33.333333%"), ("3/6", "50%"), ("4/6", "66.666667%"),
    ("5/6", "83.333333%"), ("1/12", "8.333333%"), ("2/12", "16.666667%"), ("3/12", "25%"),
    ("4/12", "33.333333%"), ("5/12", "41.666667%"), ("6/12", "50%"), ("7/12", "58.333333%"),
    ("8/12", "66.666667%"), ("9/12", "75%"), ("10/12", "83.333333%"), ("11/12", "91.666667%"),
    ("full", "100%"), ("screen", "100vw")])),
  plain "zIndex" [
    ("auto", "auto"), ("0", "0"), ("10", "10"), ("20", "20"), ("30", "30"), ("40", "40"),
    ("50", "50")],
  plain "transformOrigin" [
    ("center", "center"), ("top", "top"), ("top-right", "top right"), ("right", "right"),
    ("bottom-right", "bottom right"), ("bottom", "bottom"), ("bottom-left", "bottom left"),
    ("left", "left"), ("top-left", "top left")],
  plain "scale" [
    ("0", "0"), ("50", ".5"), ("75", ".75"), ("90", ".9"), ("95", ".95"), ("100", "1"),
    ("105", "1.05"), ("110", "1.1"), ("125", "1.25"), ("150", "1.5")],
  plain "rotate" [
    ("-180", "-180deg"), ("-90", "-90deg"), ("-45", "-45deg"), ("0", "0"), ("45", "45deg"),
    ("90", "90deg"), ("180", "180deg")],
  ("translate", .around [] "spacing" true
    (texts [("-full", "-100%"), ("-1/2", "-50%"), ("1/2", "50%"), ("full", "100%")])),
  plain "skew" [
    ("-12", "-12deg"), ("-6", "-6deg"), ("-3", "-3deg"), ("0", "0"), ("3", "3deg"), ("6", "6deg"),
    ("12", "12deg")],
  plain "transitionProperty" [
    ("none", "none"), ("all", "all"),
    ("default", "background-color, border-color, color, fill, stroke, " ++
      "opacity, box-shadow, transform"),
    ("colors", "background-color, border-color, color, fill, stroke"), ("opacity", "opacity"),
    ("shadow", "box-shadow"), ("transform", "transform")],
  plain "transitionTimingFunction" [
    ("linear", "linear"), ("in", "cubic-bezier(0.4, 0, 1, 1)"),
    ("out", "cubic-bezier(0, 0, 0.2, 1)"), ("in-out", "cubic-bezier(0.4, 0, 0.2, 1)")],
  ("transitionDuration", .fixed durations),
  ("transitionDelay", .fixed durations)]

def settleAll (settle : String → Json → Json) (sections : List (String × Tokens)) : Fields :=
  sections.foldl
    (fun resolved (name, tokens) =>
      Entries.put name (settle name (tokens.value resolved)) resolved)
    []

def builtin : Theme := ⟨settleAll (fun _ value => value) builtinSections⟩

end UtilityStyle.Theme
