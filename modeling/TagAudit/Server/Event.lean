import TagAudit.Container.Unused
import TagAudit.Text.Slug

namespace TagAudit

namespace Entity

/-- The values that a custom event trigger compares the event's name with. -/
def eventValues (trigger : Entity) : List String :=
  let conditions := (trigger.get "customEventFilter").items.filterMap ofJson?
  let parameters := conditions.flatMap fun f => (f.get "parameter").items.filterMap ofJson?
  parameters.filterMap fun p =>
    let value := p.get "value"
    if (p.get "key").isStr "arg1" && value.holds then value.text? else none

def nameSlug (trigger : Entity) : String := Text.slug "unknown_event" trigger.name

def fixedEvents : List (String × String) :=
  [("PAGE_VIEW", "page_view"), ("LINK_CLICK", "click"), ("CLICK", "click"),
    ("FORM_SUBMIT", "form_submit"), ("SUBMIT", "form_submit"), ("SCROLL", "scroll"),
    ("TIMER", "timer")]

/-- The name of the server event that stands for a client trigger. -/
def eventName (trigger : Entity) : String :=
  match trigger.type with
  | .str "CUSTOM_EVENT" => trigger.eventValues.head?.getD trigger.nameSlug
  | .str type => (fixedEvents.lookup type).getD trigger.nameSlug
  | _ => trigger.nameSlug

/-- The server client whose events a migrated tag gets. -/
def serverClient (tag : Entity) : String :=
  if tag.type.isOneOf ["awct", "adsct"] then "Google Ads" else "GA4"

end Entity

/-- The name of the server event for a trigger that may be missing. -/
def eventNameOf (trigger : Option Entity) : String :=
  (trigger.map Entity.eventName).getD "unknown_event"

/-- The trigger that is no part of a container and fires on all pages. -/
def allPagesTrigger : Entity :=
  ⟨[("triggerId", allPagesId), ("name", "All Pages"), ("type", "PAGE_VIEW")]⟩

namespace Container

/-- The trigger that an identifier names. -/
def firingTrigger? (c : Container) (id : String) : Option Entity :=
  if id == allPagesId then some allPagesTrigger else c.triggerById id

/-- The first of a tag's firing triggers that exists. -/
def firstTrigger? (c : Container) (tag : Entity) : Option Entity :=
  tag.firingIds.findSome? c.firingTrigger?

/-- The name of the event on which the server tag of a tag fires. -/
def serverEvent (c : Container) (tag : Entity) : String := eventNameOf (c.firstTrigger? tag)

end Container

end TagAudit
