import MarkupTemplate.Tag
import MarkupTemplate.Dict
import MarkupTemplate.Text.Case

/-!
# Registries

A registry is a table of tags by name. There is one with the standard tags for each dialect.
-/

namespace MarkupTemplate

/-- Tags by their names. -/
abbrev Registry := Dict Tag

namespace Registry

/-- The standard tags that take a body. -/
def bodyTags : List String :=
  ["a", "abbr", "address", "article", "aside", "audio", "b", "bdi", "bdo", "blockquote", "body",
    "button", "canvas", "caption", "cite", "code", "colgroup", "data", "datalist", "dd", "del",
    "details", "dfn", "dialog", "div", "dl", "dt", "em", "fieldset", "figcaption", "figure",
    "footer", "form", "h1", "h2", "h3", "h4", "h5", "h6", "head", "header", "hgroup", "html",
    "i", "iframe", "ins", "kbd", "label", "legend", "li", "main", "map", "mark", "menu", "meter",
    "nav", "noscript", "object", "ol", "optgroup", "option", "output", "p", "picture", "pre",
    "progress", "q", "rp", "rt", "ruby", "s", "samp", "script", "search", "section", "select",
    "slot", "small", "span", "strong", "style", "sub", "summary", "sup", "svg", "table", "tbody",
    "td", "template", "textarea", "tfoot", "th", "thead", "time", "title", "tr", "u", "ul",
    "var", "video"]

/-- The standard tags that take none. -/
def voidTags : List String :=
  ["area", "base", "br", "col", "embed", "hr", "img", "input", "link", "meta", "param", "source",
    "track", "wbr"]

def add (r : Registry) (tag : Tag) : Registry := Dict.insert tag.name tag r

/-- The registry of some tags, of which the last one of a name counts. -/
def ofTags (tags : List Tag) : Registry := tags.foldl add []

/-- The registry of the standard tags of a dialect. -/
def standard (dialect : Dialect) : Registry :=
  ofTags (bodyTags.map (.markup (.standard dialect) · false dialect) ++
    voidTags.map (.markup (.standard dialect) · true dialect))

/-- The tag of a name, or else of the name in lower case. -/
def find? (r : Registry) (name : String) : Option Tag :=
  Dict.get? name r <|> Dict.get? (String.ofList (Text.lower name.toList)) r

end Registry

end MarkupTemplate
