import Vitrine.Html.Token

/-!
# Groups of elements

Which elements the rules of tree construction treat alike.
-/

namespace Vitrine.Html

/-- Elements of mathematics that hold text. -/
def ElementName.holdsMathText (name : ElementName) : Bool :=
  name.vocabulary = .mathml && ["mi", "mo", "mn", "ms", "mtext"].contains name.tag

/-- Elements of graphics that hold HTML. -/
def ElementName.holdsHtml (name : ElementName) : Bool :=
  name.vocabulary = .svg && ["foreignObject", "desc", "title"].contains name.tag

/-- Elements that a search for an open element does not look beyond. -/
def ElementName.endsScope (name : ElementName) : Bool :=
  name.isHtml ["applet", "caption", "html", "table", "td", "th", "marquee", "object", "template"]
    || name.holdsMathText || name.holdsHtml

def ElementName.endsListScope (name : ElementName) : Bool :=
  name.endsScope || name.isHtml ["ol", "ul"]

def ElementName.endsButtonScope (name : ElementName) : Bool :=
  name.endsScope || name.isHtml ["button"]

def ElementName.endsTableScope (name : ElementName) : Bool :=
  name.isHtml ["html", "table", "template"]

def ElementName.endsSelectScope (name : ElementName) : Bool :=
  !name.isHtml ["optgroup", "option"]

/-- Elements whose end tag may be left out. -/
def impliedTags : List String :=
  ["dd", "dt", "li", "option", "optgroup", "p", "rb", "rp", "rt", "rtc"]

/-- Elements that a template closes besides. -/
def thoroughlyImpliedTags : List String :=
  impliedTags ++ ["caption", "colgroup", "tbody", "td", "tfoot", "th", "thead", "tr"]

def headingTags : List String := ["h1", "h2", "h3", "h4", "h5", "h6"]

/-- Elements that structure a document, so that no end tag of another element reaches past them. -/
def specialTags : List String :=
  ["address", "applet", "area", "article", "aside", "base", "basefont", "bgsound", "blockquote",
    "body", "br", "button", "caption", "center", "col", "colgroup", "dd", "details", "dir", "div",
    "dl", "dt", "embed", "fieldset", "figcaption", "figure", "footer", "form", "frame", "frameset",
    "h1", "h2", "h3", "h4", "h5", "h6", "head", "header", "hgroup", "hr", "html", "iframe", "img",
    "input", "isindex", "li", "link", "listing", "main", "marquee", "menu", "meta", "nav", "noembed",
    "noframes", "noscript", "object", "ol", "p", "param", "plaintext", "pre", "script", "section",
    "select", "source", "style", "summary", "table", "tbody", "td", "template", "textarea", "tfoot",
    "th", "thead", "title", "tr", "track", "ul", "wbr", "xmp"]

def ElementName.isSpecial (name : ElementName) : Bool := name.isHtml specialTags

/-- The parts of a table that hold no text themselves. -/
def tableParts : List String := ["table", "tbody", "tfoot", "thead", "tr"]

/-- What belongs into the head of a document. -/
def headTags : List String :=
  ["base", "basefont", "bgsound", "link", "meta", "noframes", "script", "style", "template", "title"]

/-- Elements that begin a block and end a paragraph. -/
def blockTags : List String :=
  ["address", "article", "aside", "blockquote", "center", "details", "dialog", "dir", "div", "dl",
    "fieldset", "figcaption", "figure", "footer", "header", "hgroup", "main", "menu", "nav", "ol",
    "p", "section", "summary", "ul"]

/-- Elements whose end tag closes whatever is open inside them. -/
def closingTags : List String :=
  ["address", "article", "aside", "blockquote", "button", "center", "details", "dialog", "dir", "div",
    "dl", "fieldset", "figcaption", "figure", "footer", "header", "hgroup", "listing", "main", "menu",
    "nav", "ol", "pre", "section", "summary", "ul"]

/-- Elements that format text and are reopened where they were closed by force. -/
def formattingTags : List String :=
  ["b", "big", "code", "em", "font", "i", "s", "small", "strike", "strong", "tt", "u"]

/-- Tags that end foreign content. -/
def breakoutTags : List String :=
  ["b", "big", "blockquote", "body", "br", "center", "code", "dd", "div", "dl", "dt", "em", "embed",
    "h1", "h2", "h3", "h4", "h5", "h6", "head", "hr", "i", "img", "li", "listing", "menu", "meta",
    "nobr", "ol", "p", "pre", "ruby", "s", "small", "span", "strong", "strike", "sub", "sup", "table",
    "tt", "u", "ul", "var"]

end Vitrine.Html
