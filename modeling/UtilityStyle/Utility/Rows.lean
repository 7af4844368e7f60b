import UtilityStyle.Utility.Row

namespace UtilityStyle.Utility

def reads (key : String) (properties : List String) (source : String) : Row :=
  ⟨key, .descriptors [⟨properties, source, none⟩]⟩

def rows : List Row := [
  -- layout
  ⟨"container", .family .container⟩,
  reads "object" ["objectPosition"] "objectPosition",
  reads "top" ["top"] "inset",
  reads "bottom" ["bottom"] "inset",
  reads "right" ["right"] "inset",
  reads "left" ["left"] "inset",
  reads "inset-y" ["top", "bottom"] "inset",
  reads "inset-x" ["left", "right"] "inset",
  reads "inset" ["top", "right", "bottom", "left"] "inset",
  reads "z" ["zIndex"] "zIndex",
  ⟨"space-y", .family .space⟩,
  ⟨"space-x", .family .space⟩,
  ⟨"divide-opacity", .family .divide⟩,
  ⟨"divide-y", .family .divide⟩,
  ⟨"divide-x", .family .divide⟩,
  ⟨"divide", .family .divide⟩,
  -- flexbox
  reads "flex-grow" ["flexGrow"] "flexGrow",
  reads "flex-shrink" ["flexShrink"] "flexShrink",
  reads "flex" ["flex"] "flex",
  reads "order" ["order"] "order",
  -- grid
  reads "grid-cols" ["gridTemplateColumns"] "gridTemplateColumns",
  reads "col" ["gridColumn"] "gridColumn",
  reads "col-start" ["gridColumnStart"] "gridColumnStart",
  reads "col-end" ["gridColumnEnd"] "gridColumnEnd",
  reads "grid-rows" ["gridTemplateRows"] "gridTemplateRows",
  reads "row" ["gridRow"] "gridRow",
  reads "row-start" ["gridRowStart"] "gridRowStart",
  reads "row-end" ["gridRowEnd"] "gridRowEnd",
  reads "gap" ["gap"] "gap",
  reads "col-gap" ["columnGap"] "gap",
  reads "row-gap" ["rowGap"] "gap",
  -- spacing
  reads "pt" ["paddingTop"] "padding",
  reads "pr" ["paddingRight"] "padding",
  reads "pb" ["paddingBottom"] "padding",
  reads "pl" ["paddingLeft"] "padding",
  reads "px" ["paddingLeft", "paddingRight"] "padding",
  reads "py" ["paddingTop", "paddingBottom"] "padding",
  reads "p" ["padding"] "padding",
  reads "mt" ["marginTop"] "margin",
  reads "mr" ["marginRight"] "margin",
  reads "mb" ["marginBottom"] "margin",
  reads "ml" ["marginLeft"] "margin",
  reads "mx" ["marginLeft", "marginRight"] "margin",
  reads "my" ["marginTop", "marginBottom"] "margin",
  reads "m" ["margin"] "margin",
  -- sizing
  reads "w" ["width"] "width",
  reads "min-w" ["minWidth"] "minWidth",
  reads "max-w" ["maxWidth"] "maxWidth",
  reads "h" ["height"] "height",
  reads "min-h" ["minHeight"] "minHeight",
  reads "max-h" ["maxHeight"] "maxHeight",
  -- typography
  ⟨"font", .descriptors [
    ⟨["fontFamily"], "fontFamily", none⟩, ⟨["fontWeight"], "fontWeight", none⟩]⟩,
  reads "tracking" ["letterSpacing"] "letterSpacing",
  reads "leading" ["lineHeight"] "lineHeight",
  reads "list" ["listStyleType"] "listStyleType",
  ⟨"placeholder", .family .placeholder⟩,
  ⟨"text-opacity", .descriptors [⟨["--text-opacity"], "textOpacity", some "opacity"⟩]⟩,
  ⟨"text", .family .text⟩,
  -- backgrounds
  ⟨"bg-opacity", .descriptors [⟨["--bg-opacity"], "backgroundOpacity", some "opacity"⟩]⟩,
  ⟨"bg", .family .bg⟩,
  -- borders
  reads "border-t" ["borderTopWidth"] "borderWidth",
  reads "border-b" ["borderBottomWidth"] "borderWidth",
  reads "border-l" ["borderLeftWidth"] "borderWidth",
  reads "border-r" ["borderRightWidth"] "borderWidth",
  ⟨"border-opacity", .descriptors [⟨["--border-opacity"], "borderOpacity", some "opacity"⟩]⟩,
  ⟨"border", .family .border⟩,
  reads "rounded-tl" ["borderTopLeftRadius"] "borderRadius",
  reads "rounded-tr" ["borderTopRightRadius"] "borderRadius",
  reads "rounded-br" ["borderBottomRightRadius"] "borderRadius",
  reads "rounded-bl" ["borderBottomLeftRadius"] "borderRadius",
  reads "rounded-t" ["borderTopLeftRadius", "borderTopRightRadius"] "borderRadius",
  reads "rounded-r" ["borderTopRightRadius", "borderBottomRightRadius"] "borderRadius",
  reads "rounded-b" ["borderBottomLeftRadius", "borderBottomRightRadius"] "borderRadius",
  reads "rounded-l" ["borderTopLeftRadius", "borderBottomLeftRadius"] "borderRadius",
  reads "rounded" ["borderRadius"] "borderRadius",
  -- effects
  reads "shadow" ["boxShadow"] "boxShadow",
  reads "opacity" ["opacity"] "opacity",
  -- transitions
  reads "transition" ["transitionProperty"] "transitionProperty",
  reads "duration" ["transitionDuration"] "transitionDuration",
  reads "ease" ["transitionTimingFunction"] "transitionTimingFunction",
  reads "delay" ["transitionDelay"] "transitionDelay",
  -- transforms
  reads "scale-x" ["--transform-scale-x"] "scale",
  reads "scale-y" ["--transform-scale-y"] "scale",
  reads "scale" ["--transform-scale-x", "--transform-scale-y"] "scale",
  reads "rotate" ["--transform-rotate"] "rotate",
  reads "translate-x" ["--transform-translate-x"] "translate",
  reads "translate-y" ["--transform-translate-y"] "translate",
  reads "skew-x" ["--transform-skew-x"] "skew",
  reads "skew-y" ["--transform-skew-y"] "skew",
  reads "origin" ["transformOrigin"] "transformOrigin",
  -- interactivity
  reads "cursor" ["cursor"] "cursor",
  -- svg
  reads "fill" ["fill"] "fill",
  ⟨"stroke", .descriptors [
    ⟨["stroke"], "stroke", none⟩, ⟨["strokeWidth"], "strokeWidth", none⟩]⟩]

def row? (key : String) : Option Row := rows.find? (·.key = key)

end UtilityStyle.Utility
