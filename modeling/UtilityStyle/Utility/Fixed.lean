import UtilityStyle.Selector
import UtilityStyle.Style

namespace UtilityStyle.Utility

def sets (name : String) (properties : List (String × String)) : String × Style :=
  (name, ⟨properties.map fun (property, text) => (property, .string text)⟩)

def turnsOn (name property : String) : String × Style :=
  (name, .under Selector.laterSiblings ⟨[(property, .number (.whole 1))]⟩)

def noContent : String := "\"\""

def transformText : String :=
  "translateX(var(--transform-translate-x)) translateY(var(--transform-translate-y)) " ++
  "rotate(var(--transform-rotate)) " ++
  "skewX(var(--transform-skew-x)) skewY(var(--transform-skew-y)) " ++
  "scaleX(var(--transform-scale-x)) scaleY(var(--transform-scale-y))"

def fixed : Entries Style := [
  -- layout
  sets "box-border" [("boxSizing", "border-box")],
  sets "box-content" [("boxSizing", "content-box")],
  sets "hidden" [("display", "none")],
  sets "block" [("display", "block")],
  sets "inline-block" [("display", "inline-block")],
  sets "inline" [("display", "inline")],
  sets "flow-root" [("display", "flow-root")],
  sets "flex" [("display", "flex")],
  sets "inline-flex" [("display", "inline-flex")],
  sets "grid" [("display", "grid")],
  sets "inline-grid" [("display", "inline-grid")],
  sets "table" [("display", "table")],
  sets "table-caption" [("display", "table-caption")],
  sets "table-cell" [("display", "table-cell")],
  sets "table-column" [("display", "table-column")],
  sets "table-column-group" [("display", "table-column-group")],
  sets "table-footer-group" [("display", "table-footer-group")],
  sets "table-header-group" [("display", "table-header-group")],
  sets "table-row-group" [("display", "table-row-group")],
  sets "table-row" [("display", "table-row")],
  sets "float-right" [("float", "right")],
  sets "float-left" [("float", "left")],
  sets "float-none" [("float", "none")],
  ("clearfix", .under "::after" ⟨[("content", .string noContent), ("display", .string "table"),
    ("clear", .string "both")]⟩),
  sets "clear-left" [("clear", "left")],
  sets "clear-right" [("clear", "right")],
  sets "clear-both" [("clear", "both")],
  sets "clear-none" [("clear", "none")],
  sets "object-contain" [("objectFit", "contain")],
  sets "object-cover" [("objectFit", "cover")],
  sets "object-fill" [("objectFit", "fill")],
  sets "object-none" [("objectFit", "none")],
  sets "object-scale-down" [("objectFit", "scale-down")],
  sets "overflow-auto" [("overflow", "auto")],
  sets "overflow-hidden" [("overflow", "hidden")],
  sets "overflow-visible" [("overflow", "visible")],
  sets "overflow-scroll" [("overflow", "scroll")],
  sets "overflow-x-auto" [("overflowX", "auto")],
  sets "overflow-y-auto" [("overflowY", "auto")],
  sets "overflow-x-hidden" [("overflowX", "hidden")],
  sets "overflow-y-hidden" [("overflowY", "hidden")],
  sets "overflow-x-visible" [("overflowX", "visible")],
  sets "overflow-y-visible" [("overflowY", "visible")],
  sets "overflow-x-scroll" [("overflowX", "scroll")],
  sets "overflow-y-scroll" [("overflowY", "scroll")],
  sets "scrolling-touch" [("WebkitOverflowScrolling", "touch")],
  sets "scrolling-auto" [("WebkitOverflowScrolling", "auto")],
  sets "static" [("position", "static")],
  sets "fixed" [("position", "fixed")],
  sets "absolute" [("position", "absolute")],
  sets "relative" [("position", "relative")],
  sets "sticky" [("position", "sticky")],
  sets "visible" [("visibility", "visible")],
  sets "invisible" [("visibility", "hidden")],
  turnsOn "space-x-reverse" "--space-x-reverse",
  turnsOn "space-y-reverse" "--space-y-reverse",
  turnsOn "divide-x-reverse" "--divide-x-reverse",
  turnsOn "divide-y-reverse" "--divide-y-reverse",
  -- flexbox
  sets "flex-row" [("flexDirection", "row")],
  sets "flex-row-reverse" [("flexDirection", "row-reverse")],
  sets "flex-col" [("flexDirection", "column")],
  sets "flex-col-reverse" [("flexDirection", "column-reverse")],
  sets "flex-no-wrap" [("flexWrap", "nowrap")],
  sets "flex-wrap" [("flexWrap", "wrap")],
  sets "flex-wrap-reverse" [("flexWrap", "wrap-reverse")],
  sets "items-stretch" [("alignItems", "stretch")],
  sets "items-start" [("alignItems", "flex-start")],
  sets "items-center" [("alignItems", "center")],
  sets "items-end" [("alignItems", "flex-end")],
  sets "items-baseline" [("alignItems", "baseline")],
  sets "content-start" [("alignContent", "flex-start")],
  sets "content-center" [("alignContent", "center")],
  sets "content-end" [("alignContent", "flex-end")],
  sets "content-between" [("alignContent", "space-between")],
  sets "content-around" [("alignContent", "space-around")],
  sets "self-auto" [("alignSelf", "auto")],
  sets "self-start" [("alignSelf", "flex-start")],
  sets "self-center" [("alignSelf", "center")],
  sets "self-end" [("alignSelf", "flex-end")],
  sets "self-stretch" [("alignSelf", "stretch")],
  sets "justify-start" [("justifyContent", "flex-start")],
  sets "justify-center" [("justifyContent", "center")],
  sets "justify-end" [("justifyContent", "flex-end")],
  sets "justify-between" [("justifyContent", "space-between")],
  sets "justify-around" [("justifyContent", "space-around")],
  -- grid
  sets "grid-flow-row" [("gridAutoFlow", "row")],
  sets "grid-flow-col" [("gridAutoFlow", "column")],
  sets "grid-flow-row-dense" [("gridAutoFlow", "row dense")],
  sets "grid-flow-col-dense" [("gridAutoFlow", "column dense")],
  -- typography
  sets "antialiased" [("WebkitFontSmoothing", "antialiased"), ("MozOsxFontSmoothing", "grayscale")],
  sets "subpixel-antialiased" [("WebkitFontSmoothing", "auto"), ("MozOsxFontSmoothing", "auto")],
  sets "italic" [("fontStyle", "italic")],
  sets "not-italic" [("fontStyle", "normal")],
  sets "list-inside" [("listStylePosition", "inside")],
  sets "list-outside" [("listStylePosition", "outside")],
  sets "text-left" [("textAlign", "left")],
  sets "text-center" [("textAlign", "center")],
  sets "text-right" [("textAlign", "right")],
  sets "text-justify" [("textAlign", "justify")],
  sets "underline" [("textDecoration", "underline")],
  sets "line-through" [("textDecoration", "line-through")],
  sets "no-underline" [("textDecoration", "none")],
  sets "uppercase" [("textTransform", "uppercase")],
  sets "lowercase" [("textTransform", "lowercase")],
  sets "capitalize" [("textTransform", "capitalize")],
  sets "normal-case" [("textTransform", "none")],
  sets "align-baseline" [("verticalAlign", "baseline")],
  sets "align-top" [("verticalAlign", "top")],
  sets "align-middle" [("verticalAlign", "middle")],
  sets "align-bottom" [("verticalAlign", "bottom")],
  sets "align-text-top" [("verticalAlign", "text-top")],
  sets "align-text-bottom" [("verticalAlign", "text-bottom")],
  sets "whitespace-normal" [("whiteSpace", "normal")],
  sets "whitespace-no-wrap" [("whiteSpace", "nowrap")],
  sets "whitespace-pre" [("whiteSpace", "pre")],
  sets "whitespace-pre-line" [("whiteSpace", "pre-line")],
  sets "whitespace-pre-wrap" [("whiteSpace", "pre-wrap")],
  sets "break-normal" [("wordBreak", "normal"), ("overflowWrap", "normal")],
  sets "break-words" [("overflowWrap", "break-word")],
  sets "break-all" [("wordBreak", "break-all")],
  sets "truncate" [("overflow", "hidden"), ("textOverflow", "ellipsis"), ("whiteSpace", "nowrap")],
  -- backgrounds
  sets "bg-fixed" [("backgroundAttachment", "fixed")],
  sets "bg-local" [("backgroundAttachment", "local")],
  sets "bg-scroll" [("backgroundAttachment", "scroll")],
  sets "bg-repeat" [("backgroundRepeat", "repeat")],
  sets "bg-no-repeat" [("backgroundRepeat", "no-repeat")],
  sets "bg-repeat-x" [("backgroundRepeat", "repeat-x")],
  sets "bg-repeat-y" [("backgroundRepeat", "repeat-y")],
  sets "bg-repeat-round" [("backgroundRepeat", "round")],
  sets "bg-repeat-space" [("backgroundRepeat", "space")],
  -- borders
  sets "border-solid" [("borderStyle", "solid")],
  sets "border-dashed" [("borderStyle", "dashed")],
  sets "border-dotted" [("borderStyle", "dotted")],
  sets "border-double" [("borderStyle", "double")],
  sets "border-none" [("borderStyle", "none")],
  -- tables
  sets "border-collapse" [("borderCollapse", "collapse")],
  sets "border-separate" [("borderCollapse", "separate")],
  sets "table-auto" [("tableLayout", "auto")],
  sets "table-fixed" [("tableLayout", "fixed")],
  -- interactivity
  sets "appearance-none" [("appearance", "none")],
  ("outline-none", ⟨[("outline", .number (.whole 0))]⟩),
  sets "pointer-events-none" [("pointerEvents", "none")],
  sets "pointer-events-auto" [("pointerEvents", "auto")],
  sets "resize-none" [("resize", "none")],
  sets "resize-y" [("resize", "vertical")],
  sets "resize-x" [("resize", "horizontal")],
  sets "resize" [("resize", "both")],
  sets "select-none" [("userSelect", "none")],
  sets "select-text" [("userSelect", "text")],
  sets "select-all" [("userSelect", "all")],
  sets "select-auto" [("userSelect", "auto")],
  -- accessibility
  sets "sr-only" [("position", "absolute"), ("width", "1px"), ("height", "1px"), ("padding", "0"),
    ("margin", "-1px"), ("overflow", "hidden"), ("clip", "rect(0, 0, 0, 0)"),
    ("whiteSpace", "nowrap"), ("borderWidth", "0")],
  sets "not-sr-only" [("position", "static"), ("width", "auto"), ("height", "auto"),
    ("padding", "0"), ("margin", "0"), ("overflow", "visible"), ("clip", "auto"),
    ("whiteSpace", "normal")],
  -- transforms
  sets "transform" [("--transform-translate-x", "0"), ("--transform-translate-y", "0"),
    ("--transform-rotate", "0"), ("--transform-skew-x", "0"), ("--transform-skew-y", "0"),
    ("--transform-scale-x", "1"), ("--transform-scale-y", "1"),
    ("transform", transformText)],
  -- extras
  sets "content" [("content", noContent)]]

def fixedNames : List String := Entries.keys fixed

def fixed? (name : String) : Option Style := Entries.get? name fixed

end UtilityStyle.Utility
