import ClassList.Catalog.Basic

namespace ClassList

/-- A group from written patterns. -/
private def group (label : String) (tier : Tier) (patterns : List String) : Group :=
  ⟨label.toList, tier, patterns.map fun pattern => ⟨pattern.toList⟩⟩

/-- The standard groups, in order of precedence. The order decides between patterns that share
    tokens: `top-0` holds `p-` of Spacing, but Coordinates comes first. -/
def Catalog.standard : Catalog :=
  [group "Layout" .utility
      ["container", "box-border", "box-content", "block", "inline-block", "inline", "flex",
        "inline-flex", "table", "inline-table", "grid", "inline-grid", "contents", "list-item",
        "hidden"],
    group "Position" .utility ["static", "fixed", "absolute", "relative", "sticky"],
    group "Coordinates" .utility ["inset-", "top-", "right-", "bottom-", "left-", "z-"],
    group "Display" .utility ["visible", "invisible", "collapse", "overflow-", "overscroll-"],
    group "Flexbox" .utility
      ["flex-row", "flex-col", "flex-wrap", "flex-1", "flex-auto", "flex-initial", "flex-none",
        "grow", "shrink"],
    group "Grid" .utility
      ["grid-cols-", "grid-rows-", "col-", "row-", "grid-flow-", "auto-cols-", "auto-rows-"],
    group "Gap" .utility ["gap-", "space-"],
    group "Alignment" .utility ["justify-", "items-", "content-", "self-", "place-"],
    group "Sizing" .utility ["w-", "min-w-", "max-w-", "h-", "min-h-", "max-h-", "size-"],
    group "Spacing" .utility
      ["p-", "px-", "py-", "pt-", "pr-", "pb-", "pl-", "m-", "mx-", "my-", "mt-", "mr-", "mb-",
        "ml-"],
    group "Typography" .utility
      ["font-", "text-", "leading-", "tracking-", "line-clamp-", "whitespace-", "break-",
        "hyphens-"],
    group "Text Style" .utility
      ["uppercase", "lowercase", "capitalize", "normal-case", "underline", "overline",
        "line-through", "no-underline", "antialiased", "subpixel-antialiased", "italic",
        "not-italic"],
    group "Background" .utility ["bg-"],
    group "Border" .utility ["border", "divide-", "outline-", "ring-"],
    group "Border Radius" .utility ["rounded-"],
    group "Effects" .utility ["shadow-", "opacity-", "mix-blend-", "bg-blend-"],
    group "Filters" .utility
      ["blur-", "brightness-", "contrast-", "grayscale", "hue-rotate-", "invert", "saturate-",
        "sepia", "backdrop-", "drop-shadow-"],
    group "Transitions" .utility ["transition-", "duration-", "ease-", "delay-", "animate-"],
    group "Transform" .utility
      ["scale-", "rotate-", "translate-", "skew-", "origin-", "transform"],
    group "Interactivity" .utility
      ["appearance-", "cursor-", "pointer-events-", "resize-", "scroll-", "select-",
        "user-select-", "touch-", "will-change-"],
    group "SVG" .utility ["fill-", "stroke-"],
    group "Accessibility" .utility ["sr-only", "not-sr-only"],
    group "Hover" .stateVariant ["hover:"],
    group "Focus" .stateVariant ["focus:"],
    group "Active" .stateVariant ["active:"],
    group "Disabled" .stateVariant ["disabled:"],
    group "Visited" .stateVariant ["visited:"],
    group "Checked" .stateVariant ["checked:"],
    group "Group" .stateVariant ["group-"],
    group "Peer" .stateVariant ["peer-"],
    group "Before/After" .pseudoElement ["before:", "after:"],
    group "Placeholder" .pseudoElement ["placeholder:"],
    group "Selection" .pseudoElement ["selection:"],
    group "First/Last" .pseudoElement ["first:", "last:", "odd:", "even:"],
    group "Responsive" .responsive ["sm:", "md:", "lg:", "xl:", "2xl:"],
    group "Dark Mode" .darkMode ["dark:"]]

/-- No two standard groups share a label, and none has the label of unclassified tokens. -/
theorem Catalog.nodup_labels_standard : Catalog.standard.labels.Nodup := by
  decide +kernel

/-- The standard groups are laid out tier by tier, in the order of the tiers. -/
theorem Catalog.tiers_standard :
    (Catalog.standard.map Group.tier).Pairwise fun first second => (compare first second).isLE := by
  decide

end ClassList
