import AccessCatalog.Catalog.Account
import AccessCatalog.Catalog.Description
import AccessCatalog.Catalog.Grant
import AccessCatalog.Okta.Connector
import AccessCatalog.Paging.Bag
import AccessCatalog.Paging.Page
import AccessCatalog.Proofs.Paging.Frames
import AccessCatalog.Proofs.Json.ReadBack
import AccessCatalog.Proofs.Paging.Token
import AccessCatalog.Proofs.Web.Address
import AccessCatalog.Proofs.Okta.Calls
import AccessCatalog.Proofs.Okta.Phases
import AccessCatalog.Proofs.Okta.GroupGrants
import AccessCatalog.Proofs.Web.LinkEntries
import AccessCatalog.Proofs.Web.Link
import AccessCatalog.Proofs.Okta.Lookups
import AccessCatalog.Proofs.Okta.Listings
import AccessCatalog.Proofs.Okta.Traffic
import AccessCatalog.Proofs.Text.Casing
import AccessCatalog.Proofs.Catalog.Attributes
import AccessCatalog.Proofs.Okta.UserScope
import AccessCatalog.Proofs.Web.Segments
import AccessCatalog.Proofs.Web.Site
import AccessCatalog.Proofs.Okta.Addressing
import AccessCatalog.Proofs.Okta.LookupRequests
import AccessCatalog.Proofs.Okta.Reconciliation
import AccessCatalog.Proofs.Okta.FlagOwners
import AccessCatalog.Proofs.Okta.KeptBodies
import AccessCatalog.Proofs.Okta.CacheTransparency
import AccessCatalog.Proofs.Okta.Failures
import AccessCatalog.Proofs.Okta.FailurePolicy
import AccessCatalog.Proofs.Okta.GrantIdentity
import AccessCatalog.Proofs.Okta.RoleIdentity
import AccessCatalog.Proofs.Paging.Exhaustion
import AccessCatalog.Proofs.Okta.GrantNames
import AccessCatalog.Proofs.Okta.SignedCalls
import AccessCatalog.Proofs.Okta.TokenSecrecy
import AccessCatalog.Proofs.Time.Dates
import AccessCatalog.Proofs.Time.Timestamps
import AccessCatalog.Proofs.Json.Records
import AccessCatalog.Proofs.Json.Held
import AccessCatalog.Proofs.Catalog.ProfileDocuments
import AccessCatalog.Proofs.Catalog.Storage
import AccessCatalog.Proofs.Web.LinkTargets
import AccessCatalog.Proofs.Okta.RoleAccess
import AccessCatalog.Proofs.Okta.ForeignTokens
import AccessCatalog.Proofs.Okta.Throttling
import AccessCatalog.Proofs.Okta.Demands
import AccessCatalog.Proofs.Paging.Draining
import AccessCatalog.Proofs.Paging.InPlace
import AccessCatalog.Proofs.Text.Cuts
import AccessCatalog.Proofs.Json.Cuts
import AccessCatalog.Proofs.Paging.Truncation
import AccessCatalog.Proofs.Okta.FreshnessStamps
import AccessCatalog.Proofs.Okta.NewAccounts
import AccessCatalog.Proofs.Okta.SecondaryEmails
import AccessCatalog.Proofs.Catalog.NoteKinds
import AccessCatalog.Proofs.Catalog.NoteUnion
import AccessCatalog.Proofs.Okta.NullAttributes
import AccessCatalog.Proofs.Web.Roots
import AccessCatalog.Proofs.Okta.Destinations
import AccessCatalog.Proofs.Okta.DomainAddresses
import AccessCatalog.Proofs.Text.ByteOrder
import AccessCatalog.Proofs.Okta.LoggedChanges
import AccessCatalog.Proofs.Okta.EmployeeIds
import AccessCatalog.Proofs.Web.Names
import AccessCatalog.Proofs.Web.HostTexts
import AccessCatalog.Proofs.Web.Written
import AccessCatalog.Proofs.Web.Rereading
import AccessCatalog.Proofs.Okta.BuiltQueries
