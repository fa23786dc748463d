/-!
# `TagScript.Markup.Vocabulary`: which element names play which part

The construction of a tree depends on the part that an element's name plays:
which elements close a paragraph, which are special, which bound a search among
the open elements, which names of drawings are written in mixed case.
-/

set_option autoImplicit false

namespace TagScript.Markup

/-- Elements that a search for a formatting element's end does not pass. -/
def specialElements : List String :=
  ["address", "applet", "area", "article", "aside", "base", "basefont", "bgsound", "blockquote",
    "body", "br", "button", "caption", "center", "col", "colgroup", "dd", "details", "dir", "div",
    "dl", "dt", "embed", "fieldset", "figcaption", "figure", "footer", "form", "frame", "frameset",
    "h1", "h2", "h3", "h4", "h5", "h6", "head", "header", "hgroup", "hr", "html", "iframe", "img",
    "input", "keygen", "li", "link", "listing", "main", "marquee", "menu", "meta", "nav",
    "noembed", "noframes", "noscript", "object", "ol", "p", "param", "plaintext", "pre", "script",
    "section", "select", "source", "style", "summary", "table", "tbody", "td", "template",
    "textarea", "tfoot", "th", "thead", "title", "tr", "track", "ul", "wbr", "xmp"]

/-- Elements of formulas in which ordinary markup may stand. -/
def formulaTextElements : List String :=
  ["mi", "mo", "mn", "ms", "mtext"]

/-- Elements of drawings in which ordinary markup may stand. -/
def drawingTextElements : List String :=
  ["foreignObject", "desc", "title"]

/-- Whether an element is special. -/
def isSpecial (tag space : String) : Bool :=
  if space = "" then specialElements.contains tag
  else if space = "math" then formulaTextElements.contains tag || tag = "annotation-xml"
  else if space = "svg" then drawingTextElements.contains tag
  else false

/-- Whether an element bounds every search among the open elements. -/
def boundsScope (tag space : String) : Bool :=
  if space = "" then
    ["applet", "caption", "html", "table", "td", "th", "marquee", "object", "template"].contains tag
  else if space = "math" then formulaTextElements.contains tag || tag = "annotation-xml"
  else if space = "svg" then drawingTextElements.contains tag
  else false

/-- Elements whose start closes an open paragraph. -/
def blockElements : List String :=
  ["address", "article", "aside", "blockquote", "center", "details", "dialog", "dir", "div", "dl",
    "fieldset", "figcaption", "figure", "footer", "header", "hgroup", "main", "menu", "nav", "ol",
    "p", "section", "summary", "ul"]

/-- Elements whose end closes everything inside them. -/
def blockEnds : List String :=
  ["address", "article", "aside", "blockquote", "button", "center", "details", "dialog", "dir",
    "div", "dl", "fieldset", "figcaption", "figure", "footer", "header", "hgroup", "listing",
    "main", "menu", "nav", "ol", "pre", "section", "summary", "ul"]

/-- Headings. -/
def headings : List String :=
  ["h1", "h2", "h3", "h4", "h5", "h6"]

/-- Formatting elements, which are continued where they were cut. -/
def formattingElements : List String :=
  ["a", "b", "big", "code", "em", "font", "i", "nobr", "s", "small", "strike", "strong", "tt", "u"]

/-- Elements without content that may stand inside a paragraph. -/
def inlineVoids : List String :=
  ["area", "br", "embed", "img", "input", "keygen", "wbr"]

/-- Elements whose start tag is ignored outside of tables and documents. -/
def misplacedElements : List String :=
  ["html", "body", "frameset", "caption", "col", "colgroup", "frame", "head", "tbody", "td",
    "tfoot", "th", "thead", "tr"]

/-- Elements whose end may be left out. -/
def impliedEnds : List String :=
  ["dd", "dt", "li", "optgroup", "option", "p", "rb", "rp", "rt", "rtc"]

/-- The mixed-case names of elements of drawings. -/
def drawingNames : List String :=
  ["altGlyph", "altGlyphDef", "altGlyphItem", "animateColor", "animateMotion", "animateTransform",
    "clipPath", "feBlend", "feColorMatrix", "feComponentTransfer", "feComposite",
    "feConvolveMatrix", "feDiffuseLighting", "feDisplacementMap", "feDistantLight", "feFlood",
    "feFuncA", "feFuncB", "feFuncG", "feFuncR", "feGaussianBlur", "feImage", "feMerge",
    "feMergeNode", "feMorphology", "feOffset", "fePointLight", "feSpecularLighting",
    "feSpotLight", "feTile", "feTurbulence", "foreignObject", "glyphRef", "linearGradient",
    "radialGradient", "textPath"]

/-- The mixed-case names of attributes of drawings. -/
def drawingAttributes : List String :=
  ["attributeName", "attributeType", "baseFrequency", "baseProfile", "calcMode", "clipPathUnits",
    "diffuseConstant", "edgeMode", "filterUnits", "glyphRef", "gradientTransform",
    "gradientUnits", "kernelMatrix", "kernelUnitLength", "keyPoints", "keySplines", "keyTimes",
    "lengthAdjust", "limitingConeAngle", "markerHeight", "markerUnits", "markerWidth",
    "maskContentUnits", "maskUnits", "numOctaves", "pathLength", "patternContentUnits",
    "patternTransform", "patternUnits", "pointsAtX", "pointsAtY", "pointsAtZ", "preserveAlpha",
    "preserveAspectRatio", "primitiveUnits", "refX", "refY", "repeatCount", "repeatDur",
    "requiredExtensions", "requiredFeatures", "specularConstant", "specularExponent",
    "spreadMethod", "startOffset", "stdDeviation", "stitchTiles", "surfaceScale",
    "systemLanguage", "tableValues", "targetX", "targetY", "textLength", "viewBox", "viewTarget",
    "xChannelSelector", "yChannelSelector", "zoomAndPan"]

/-- The attributes whose name carries the name of another vocabulary. -/
def qualifiedAttributes : List String :=
  ["xlink:actuate", "xlink:arcrole", "xlink:href", "xlink:role", "xlink:show", "xlink:title",
    "xlink:type", "xml:base", "xml:lang", "xml:space", "xmlns:xlink"]

/-- The mixed-case form of a name among those listed, or the name itself. -/
def restoreCase (names : List String) (name : String) : String :=
  (names.find? fun n => n.toLower == name).getD name

end TagScript.Markup
