import Vitrine.Import.Read
import Vitrine.Project.Sample
import Vitrine.Proofs.Frame.Markup
import Vitrine.Proofs.Import.Search
import Vitrine.Proofs.Import.Table
import Vitrine.Proofs.Page.CaptureOrder
import Vitrine.Proofs.Page.Complete
import Vitrine.Proofs.Page.Diagnostic
import Vitrine.Proofs.Page.Documentation
import Vitrine.Proofs.Page.ExactTag
import Vitrine.Proofs.Page.TableText
import Vitrine.Proofs.Page.Template
import Vitrine.Proofs.Project.Arranged
import Vitrine.Proofs.Project.Edited
import Vitrine.Proofs.Project.Extension
import Vitrine.Proofs.Project.Fingerprint
import Vitrine.Proofs.Project.Literals
import Vitrine.Proofs.Project.Modules
import Vitrine.Proofs.Project.Stylesheets
import Vitrine.Proofs.Resource.Holding
import Vitrine.Proofs.Resource.Issue
import Vitrine.Proofs.Resource.Revoke
import Vitrine.Proofs.Session.History
import Vitrine.Proofs.Session.ImportTable
import Vitrine.Proofs.Session.Report
import Vitrine.Proofs.Session.Token
import Vitrine.Proofs.Workspace.Reuse
import Vitrine.Resource.World
import Vitrine.Settings.Read
import Vitrine.Workspace
