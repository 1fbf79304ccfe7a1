import CodeReport.Page.Markup

/-!
# Icons

Icons are drawn in a square of 256 units and take the colour of the text around
them. An icon without a label is decoration, and screen readers skip it.
-/

namespace CodeReport.Page

/-- The icons of a page, by what they stand for. -/
inductive Icon where
  /-- Copying. -/
  | copy
  /-- A warning. -/
  | warning
  /-- The model of an analysis. -/
  | robot
  /-- Opening and closing. -/
  | caret
  /-- Code. -/
  | code
  /-- An explanation. -/
  | lightbulb
  /-- How sure something is. -/
  | target
  /-- References. -/
  | link
  deriving Repr, DecidableEq

namespace Icon

/-- The outline of an icon. -/
def outline : Icon → String
  | .copy =>
    "M216,32H88a8,8,0,0,0-8,8V80H40a8,8,0,0,0-8,8V216a8,8,0,0,0,8,8H168a8,8,0,0,0," ++
    "8-8V176h40a8,8,0,0,0,8-8V40A8,8,0,0,0,216,32ZM160,208H48V96H160Zm48-48H176V88a8,8,0," ++
    "0,0-8-8H96V48H208Z"
  | .warning =>
    "M128,24A104,104,0,1,0,232,128,104.11,104.11,0,0,0,128,24Zm0,192a88,88,0,1,1," ++
    "88-88A88.1,88.1,0,0,1,128,216Zm-8-80V80a8,8,0,0,1,16,0v56a8,8,0,0,1-16,0Zm8,40a12," ++
    "12,0,1,1,12-12A12,12,0,0,1,128,176Z"
  | .robot =>
    "M224,64H186.34A48.11,48.11,0,0,0,144,32.23V24a8,8,0,0,0-16,0v8.23A48.11,48.11,0,0,0," ++
    "85.66,64H48A16,16,0,0,0,32,80v40a16,16,0,0,0,16,16h7.53A56.06,56.06,0,0,0,48,160a56," ++
    "56,0,0,0,112,0,56.06,56.06,0,0,0-7.53-24H208a16,16,0,0,0,16-16V80A16,16,0,0,0,224," ++
    "64ZM48,120V80H81.43A48.16,48.16,0,0,0,80,88v32Zm56,88a40,40,0,1,1,40-40A40,40,0,0,1," ++
    "104,208Zm64-88H128V88a48,48,0,0,0-1.43-8h82.86A48.16,48.16,0,0,0,208," ++
    "120Zm40-16H178.09a56.25,56.25,0,0,0,3.91-16h26v32ZM84,160a12,12,0,1,1,12,12A12,12,0," ++
    "0,1,84,160Zm56,0a12,12,0,1,1,12,12A12,12,0,0,1,140,160Z"
  | .caret =>
    "M213.66,101.66l-80,80a8,8,0,0,1-11.32,0l-80-80A8,8,0,0,1,53.66,90.34L128," ++
    "164.69l74.34-74.35a8,8,0,0,1,11.32,11.32Z"
  | .code =>
    "M69.12,94.15,28.5,128l40.62,33.85a8,8,0,1,1-10.24,12.29l-48-40a8,8,0,0,1," ++
    "0-12.29l48-40a8,8,0,0,1,10.24,12.3Zm176,27.7-48-40a8,8,0,1,0-10.24,12.3L227.5," ++
    "128l-40.62,33.85a8,8,0,1,0,10.24,12.29l48-40a8,8,0,0,0,0-12.29ZM162.73,32.48a8,8,0," ++
    "0,0-10.25,4.79l-64,176a8,8,0,0,0,4.79,10.26A8.14,8.14,0,0,0,96,224a8,8,0,0,0," ++
    "7.52-5.27l64-176A8,8,0,0,0,162.73,32.48Z"
  | .lightbulb =>
    "M176,232a8,8,0,0,1-8,8H88a8,8,0,0,1,0-16h80A8,8,0,0,1,176,232Zm40-128a87.55,87.55,0," ++
    "0,1-33.64,69.21A16.24,16.24,0,0,0,176,186v6a16,16,0,0,1-16,16H96a16,16,0,0," ++
    "1-16-16v-6a16,16,0,0,0-6.23-12.66A87.59,87.59,0,0,1,40,104.49C39.74,56.83,78.26," ++
    "17.14,125.88,16A88,88,0,0,1,216,104Zm-16,0a72,72,0,0,0-73.74-72c-39,.92-70.47," ++
    "33.39-70.26,72.39a71.65,71.65,0,0,0,27.64,56.3A32,32,0,0,1,96,186v6h64v-6a32.15," ++
    "32.15,0,0,1,12.47-25.35A71.65,71.65,0,0,0,200,104Z"
  | .target =>
    "M128,24A104,104,0,1,0,232,128,104.11,104.11,0,0,0,128,24Zm0,192a88,88,0,1,1," ++
    "88-88A88.1,88.1,0,0,1,128,216Zm0-152a64,64,0,1,0,64,64A64.07,64.07,0,0,0,128,64Zm0," ++
    "112a48,48,0,1,1,48-48A48.05,48.05,0,0,1,128,176Zm0-80a32,32,0,1,0,32,32A32,32,0,0,0," ++
    "128,96Zm0,48a16,16,0,1,1,16-16A16,16,0,0,1,128,144Z"
  | .link =>
    "M224,104a8,8,0,0,1-16,0V59.32l-66.33,66.34a8,8,0,0,1-11.32-11.32L196.68,48H152a8,8," ++
    "0,0,1,0-16h64a8,8,0,0,1,8,8Zm-40,24a8,8,0,0,0-8,8v72H48V80h72a8,8,0,0,0,0-16H48A16," ++
    "16,0,0,0,32,80V208a16,16,0,0,0,16,16H176a16,16,0,0,0,16-16V136A8,8,0,0,0,184,128Z"

/-- An icon of a size in pixels; `classes` are put behind its own class. -/
def markup (icon : Icon) (size classes : String) (label : Option String) : Markup :=
  .element .svg
    ([(.xmlns, "http://www.w3.org/2000/svg"), (.width, size), (.height, size),
      (.fill, "currentColor"), (.viewBox, "0 0 256 256")] ++
      (match label with
        | some label => [(.role, "img"), (.ariaLabel, label)]
        | none => [(.ariaHidden, "true")]) ++
      [(.classes, if classes.isEmpty then "icon" else "icon " ++ classes)])
    [.element .path [(.d, icon.outline)] []]

/-- An icon for decoration. -/
def decoration (icon : Icon) (size classes : String) : Markup :=
  icon.markup size classes none

/-- A small icon in front of a heading; `colour` is the class that colours it, if any. -/
def small (icon : Icon) (colour : String) : Markup :=
  icon.decoration "18" (if colour.isEmpty then "icon-sm" else "icon-sm " ++ colour)

end Icon

end CodeReport.Page
